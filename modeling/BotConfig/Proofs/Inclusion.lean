import BotConfig.FileTree
import BotConfig.Proofs.Folders
import BotConfig.Proofs.Merging
import Mathlib.Data.List.Forall2
import Mathlib.Data.List.Lex
import Mathlib.Order.Nat

/-!
Chains of included files.

A document includes the files that the names in its list stand for, seen from its own folder.  They
are numbered, so a list of numbers is a way from a source to a document, and the traversal comes to
the documents in the lexicographic order of the ways to them.
It ends with the error of the first document that is flawed or that lies too deep, and with none
when there is no such document.
-/

namespace BotConfig.Source

section

variable (read : String → Except ReadFault String)

/-- A source includes the files that its document lists, each name seen from the folder of the
source.  Without a list it includes none. -/
inductive Includes (source : Source) : List Source → Prop
  | unlisted {document : Fields} :
      source.document read = .ok document →
      Fields.get? Config.includeKey document = none →
      Includes source []
  | null {document : Fields} :
      source.document read = .ok document →
      Fields.get? Config.includeKey document = some .null →
      Includes source []
  | listed {document : Fields} {names : List String} {below : List Source} :
      source.document read = .ok document →
      Fields.get? Config.includeKey document = some (.list (names.map Value.text)) →
      List.Forall₂ source.Resolves names below →
      Includes source below

/-- Following includes by their positions, a source leads to another. -/
inductive Leads : Source → List Nat → Source → Prop
  | here {source : Source} : Leads source [] source
  | step {source next reached : Source} {below : List Source} {position : Nat}
      {steps : List Nat} :
      Includes read source below →
      below[position]? = some next →
      Leads next steps reached →
      Leads source (position :: steps) reached

/-- A source can be read, holds a mapping, and lists the files that it includes as texts. -/
def Sound (source : Source) : Prop :=
  ∃ text document,
    source.text read = .ok text ∧
    Document.readValue (Document.Format.ofName source.name) text = .ok (.mapping document) ∧
    (Fields.get? Config.includeKey document = none ∨
      Fields.get? Config.includeKey document = some .null ∨
      ∃ names : List String,
        Fields.get? Config.includeKey document = some (.list (names.map Value.text)))

/-- What is wrong with a source by itself. -/
inductive Flaw : Source → ConfigError → Prop
  | unreadable {path : String} {fault : ReadFault} :
      read path = .error fault →
      Flaw (.file path) (.unreadable path fault)
  | malformed {source : Source} {text : String} {fault : Document.Fault} :
      source.text read = .ok text →
      Document.read source.name text = .error fault →
      Flaw source (.malformed source.name fault)
  | unlisted {source : Source} {document : Fields} {value : Value} :
      source.document read = .ok document →
      Fields.get? Config.includeKey document = some value →
      value ≠ .null → (∀ items, value ≠ .list items) →
      Flaw source (.invalid [.key Config.includeKey] .filePaths)
  | unnamed {source : Source} {document : Fields} {names : List String} {value : Value}
      {rest : List Value} :
      source.document read = .ok document →
      Fields.get? Config.includeKey document =
        some (.list (names.map Value.text ++ value :: rest)) →
      (∀ name, value ≠ .text name) →
      Flaw source (.invalid [.key Config.includeKey, .index names.length] .filePath)

/-- A source that so many includes lead to ends a traversal of so many levels. -/
inductive Offends (levels depth : Nat) (source : Source) : ConfigError → Prop
  | deep :
      levels ≤ depth →
      Offends levels depth source
        (.invalid [.key Config.includeKey] (.shallowInclude maxIncludeDepth source.name))
  | flawed {error : ConfigError} :
      depth < levels →
      Flaw read source error →
      Offends levels depth source error

/-- The first offence among a source and those that it leads to. -/
def FirstOffence (levels : Nat) (source : Source) (error : ConfigError) : Prop :=
  ∃ steps reached,
    Leads read source steps reached ∧
    Offends read levels steps.length reached error ∧
    ∀ earlier < steps, ∀ other, Leads read source earlier other →
      ∀ fault, ¬ Offends read levels earlier.length other fault

/-- The first offence among sources and those that they lead to. -/
def FirstOffenceAmong (levels : Nat) (sources : List Source) (error : ConfigError) : Prop :=
  ∃ (position : Nat) (source : Source),
    sources[position]? = some source ∧
    FirstOffence read levels source error ∧
    ∀ earlier < position, ∀ other, sources[earlier]? = some other →
      ∀ steps reached, Leads read other steps reached →
        ∀ fault, ¬ Offends read levels steps.length reached fault

mutual

/-- A source comes after the sources that it includes. -/
inductive Traverses : Source → List Source → Prop
  | source {source : Source} {below visited : List Source} :
      Includes read source below →
      TraversesAll below visited →
      Traverses source (visited ++ [source])

/-- Sources come in order, each after the sources that it includes. -/
inductive TraversesAll : List Source → List Source → Prop
  | nil : TraversesAll [] []
  | cons {source : Source} {rest first others : List Source} :
      Traverses source first →
      TraversesAll rest others →
      TraversesAll (source :: rest) (first ++ others)

end

/-- The sources that a source includes, as the traversal finds them. -/
def includes (source : Source) : Except ConfigError (List Source) := do
  let document ← source.document read
  return source.inner (← included document)

end

variable {read : String → Except ReadFault String}

/-! ### Sound and flawed sources -/

theorem includedNames_eq_ok_iff (position : Nat) (items : List Value) (names : List String) :
    includedNames position items = .ok names ↔ items = names.map Value.text := by
  induction items generalizing position names with
  | nil => cases names <;> simp [includedNames]
  | cons item rest inductionHypothesis =>
      rw [eq_comm (b := names.map Value.text), List.map_eq_cons_iff]
      cases item with
      | text name =>
          have named : includedNames position (.text name :: rest) = .ok names ↔
              ∃ others, includedNames (position + 1) rest = .ok others ∧
                name :: others = names := by
            cases listed : includedNames (position + 1) rest <;> simp [includedNames, listed]
          rw [named]
          simp only [inductionHypothesis]
          constructor
          · rintro ⟨others, listed, rfl⟩
            exact ⟨name, others, rfl, rfl, listed.symm⟩
          · rintro ⟨first, others, rfl, ⟨⟩, listed⟩
            exact ⟨others, listed.symm, rfl⟩
      | _ => simp [includedNames]

theorem includedNames_eq_error_iff (position : Nat) (items : List Value) (error : ConfigError) :
    includedNames position items = .error error ↔
      ∃ (names : List String) (value : Value) (rest : List Value),
        items = names.map Value.text ++ value :: rest ∧ (∀ name, value ≠ .text name) ∧
        error = .invalid [.key Config.includeKey, .index (position + names.length)] .filePath := by
  induction items generalizing position with
  | nil => simp [includedNames]
  | cons item rest inductionHypothesis =>
      by_cases noText : ∀ name, item ≠ .text name
      · have fails : includedNames position (item :: rest) =
            .error (.invalid [.key Config.includeKey, .index position] .filePath) := by
          cases item with
          | text name => exact absurd rfl (noText name)
          | _ => rfl
        rw [fails, Except.error.injEq]
        constructor
        · rintro rfl
          exact ⟨[], item, rest, rfl, noText, rfl⟩
        · rintro ⟨names, value, others, split, -, rfl⟩
          cases names with
          | nil => rfl
          | cons name names =>
              cases split
              exact absurd rfl (noText name)
      · simp only [ne_eq, not_forall, not_not] at noText
        obtain ⟨name, rfl⟩ := noText
        have passes : includedNames position (.text name :: rest) = .error error ↔
            includedNames (position + 1) rest = .error error := by
          cases listed : includedNames (position + 1) rest <;> simp [includedNames, listed]
        rw [passes, inductionHypothesis]
        constructor
        · rintro ⟨names, value, others, rfl, noText, rfl⟩
          refine ⟨name :: names, value, others, rfl, noText, ?_⟩
          rw [List.length_cons, Nat.add_right_comm, Nat.add_assoc]
        · rintro ⟨names, value, others, split, noText, rfl⟩
          cases names with
          | nil =>
              cases split
              exact absurd rfl (noText name)
          | cons first names =>
              cases split
              refine ⟨names, value, others, rfl, noText, ?_⟩
              rw [List.length_cons, Nat.add_right_comm, Nat.add_assoc]

theorem included_eq_ok_iff (document : Fields) (names : List String) :
    included document = .ok names ↔
      (Fields.get? Config.includeKey document = none ∧ names = []) ∨
        (Fields.get? Config.includeKey document = some .null ∧ names = []) ∨
        Fields.get? Config.includeKey document = some (.list (names.map Value.text)) := by
  unfold included
  cases Fields.get? Config.includeKey document with
  | none => simp [eq_comm (b := names)]
  | some value =>
      cases value <;> simp [includedNames_eq_ok_iff, eq_comm (b := names)]

theorem exists_included_eq_ok_iff (document : Fields) :
    (∃ names, included document = .ok names) ↔
      Fields.get? Config.includeKey document = none ∨
        Fields.get? Config.includeKey document = some .null ∨
        ∃ names : List String,
          Fields.get? Config.includeKey document = some (.list (names.map Value.text)) := by
  simp [included_eq_ok_iff, exists_or]

theorem document_eq_ok_iff (source : Source) (document : Fields) :
    source.document read = .ok document ↔
      ∃ text, source.text read = .ok text ∧
        Document.readValue (Document.Format.ofName source.name) text =
          .ok (.mapping document) := by
  unfold Source.document
  cases source.text read with
  | error error => simp [bind, Except.bind]
  | ok text =>
      cases reads : Document.readValue (Document.Format.ofName source.name) text with
      | error fault =>
          simp [bind, Except.bind, Document.read, reads, Except.mapError]
      | ok value =>
          cases value <;> simp [bind, Except.bind, Document.read, reads, Except.mapError, pure,
            Except.pure, throw, throwThe, MonadExceptOf.throw]

theorem document_eq_error_iff (source : Source) (error : ConfigError) :
    source.document read = .error error ↔
      source.text read = .error error ∨
        ∃ text fault, source.text read = .ok text ∧
          Document.read source.name text = .error fault ∧
          error = .malformed source.name fault := by
  unfold Source.document
  cases source.text read with
  | error fault => simp [bind, Except.bind]
  | ok text =>
      cases reads : Document.read source.name text <;>
        simp [bind, Except.bind, reads, Except.mapError, eq_comm (a := error)]

theorem included_eq_error_iff (document : Fields) (error : ConfigError) :
    included document = .error error ↔
      ∃ value, Fields.get? Config.includeKey document = some value ∧
        ((value ≠ .null ∧ (∀ items, value ≠ .list items) ∧
            error = .invalid [.key Config.includeKey] .filePaths) ∨
          ∃ (names : List String) (other : Value) (rest : List Value),
            value = .list (names.map Value.text ++ other :: rest) ∧
            (∀ name, other ≠ .text name) ∧
            error = .invalid [.key Config.includeKey, .index names.length] .filePath) := by
  unfold included
  cases Fields.get? Config.includeKey document with
  | none => simp
  | some value =>
      cases value <;> simp [includedNames_eq_error_iff, eq_comm (a := error)]

theorem includes_eq_ok_iff (source : Source) (below : List Source) :
    source.includes read = .ok below ↔
      ∃ document names, source.document read = .ok document ∧ included document = .ok names ∧
        below = source.inner names := by
  unfold includes
  cases source.document read with
  | error error => simp [bind, Except.bind]
  | ok document =>
      cases listed : included document <;>
        simp [bind, Except.bind, listed, pure, Except.pure, eq_comm (a := below)]

theorem includes_eq_error_iff (source : Source) (error : ConfigError) :
    source.includes read = .error error ↔
      source.document read = .error error ∨
        ∃ document, source.document read = .ok document ∧ included document = .error error := by
  unfold includes
  cases source.document read with
  | error error => simp [bind, Except.bind]
  | ok document =>
      cases listed : included document <;>
        simp [bind, Except.bind, listed, pure, Except.pure]

theorem forall₂_resolves_iff (source : Source) (names : List String) (below : List Source) :
    List.Forall₂ source.Resolves names below ↔ below = source.inner names := by
  induction names generalizing below with
  | nil => exact List.forall₂_nil_left_iff
  | cons name rest inductionHypothesis =>
      simp only [List.forall₂_cons_left_iff, resolves_iff, inductionHypothesis]
      constructor
      · rintro ⟨next, others, rfl, rfl, rfl⟩
        rfl
      · rintro rfl
        exact ⟨_, _, rfl, rfl, rfl⟩

/-- The traversal goes on to the sources that a source includes. -/
theorem includes_iff (source : Source) (below : List Source) :
    Includes read source below ↔ source.includes read = .ok below := by
  rw [includes_eq_ok_iff]
  constructor
  · rintro (⟨reads, none⟩ | ⟨reads, null⟩ | ⟨reads, listed, resolved⟩)
    · exact ⟨_, [], reads, (included_eq_ok_iff _ _).mpr (.inl ⟨none, rfl⟩), rfl⟩
    · exact ⟨_, [], reads, (included_eq_ok_iff _ _).mpr (.inr (.inl ⟨null, rfl⟩)), rfl⟩
    · exact ⟨_, _, reads, (included_eq_ok_iff _ _).mpr (.inr (.inr listed)),
        (forall₂_resolves_iff _ _ _).mp resolved⟩
  · rintro ⟨document, names, reads, listed, rfl⟩
    obtain ⟨none, rfl⟩ | ⟨null, rfl⟩ | names := (included_eq_ok_iff _ _).mp listed
    · exact .unlisted reads none
    · exact .null reads null
    · exact .listed reads names ((forall₂_resolves_iff _ _ _).mpr rfl)

/-- A sound source is one whose includes are known. -/
theorem sound_iff (source : Source) :
    source.Sound read ↔ ∃ below, source.includes read = .ok below := by
  simp only [Sound, ← exists_included_eq_ok_iff, includes_eq_ok_iff, document_eq_ok_iff]
  constructor
  · rintro ⟨text, document, readable, reads, names, listed⟩
    exact ⟨_, document, names, ⟨text, readable, reads⟩, listed, rfl⟩
  · rintro ⟨_, document, names, ⟨text, readable, reads⟩, listed, -⟩
    exact ⟨text, document, readable, reads, names, listed⟩

/-- What is wrong with a source is why its includes are not known. -/
theorem flaw_iff (source : Source) (error : ConfigError) :
    Flaw read source error ↔ source.includes read = .error error := by
  simp only [includes_eq_error_iff, document_eq_error_iff, included_eq_error_iff]
  constructor
  · rintro (faulty | ⟨readable, reads⟩ | ⟨reads, listed, noNull, noList⟩ |
      ⟨reads, listed, noText⟩)
    · exact .inl (.inl (by simp [Source.text, faulty, Except.mapError]))
    · exact .inl (.inr ⟨_, _, readable, reads, rfl⟩)
    · exact .inr ⟨_, reads, _, listed, .inl ⟨noNull, noList, rfl⟩⟩
    · exact .inr ⟨_, reads, _, listed, .inr ⟨_, _, _, rfl, noText, rfl⟩⟩
  · rintro ((unreadable | ⟨text, fault, readable, reads, rfl⟩) | ⟨document, reads, value, listed,
      ⟨noNull, noList, rfl⟩ | ⟨names, other, rest, rfl, noText, rfl⟩⟩)
    · cases source with
      | inline name text => cases unreadable
      | file path =>
          cases faulty : read path with
          | ok text => simp [Source.text, faulty, Except.mapError] at unreadable
          | error fault =>
              simp only [Source.text, faulty, Except.mapError, Except.error.injEq] at unreadable
              rw [← unreadable]
              exact .unreadable faulty
    · exact .malformed readable reads
    · exact .unlisted reads listed noNull noList
    · exact .unnamed reads listed noText

/-! ### Ways to documents -/

theorem leads_nil_iff {source reached : Source} :
    Leads read source [] reached ↔ reached = source := by
  constructor
  · rintro ⟨⟩
    rfl
  · rintro rfl
    exact .here

theorem leads_cons_iff {source reached : Source} {position : Nat} {steps : List Nat} :
    Leads read source (position :: steps) reached ↔
      ∃ below next, source.includes read = .ok below ∧ below[position]? = some next ∧
        Leads read next steps reached := by
  constructor
  · rintro (_ | ⟨includes, next, leads⟩)
    exact ⟨_, _, (includes_iff _ _).mp includes, next, leads⟩
  · rintro ⟨below, next, includes, found, leads⟩
    exact .step ((includes_iff source below).mpr includes) found leads

theorem Leads.append {source middle reached : Source} {first second : List Nat}
    (leads : Leads read source first middle) (further : Leads read middle second reached) :
    Leads read source (first ++ second) reached := by
  induction leads with
  | here => exact further
  | step includes found _ inductionHypothesis =>
      exact .step includes found (inductionHypothesis further)

/-- A loop can be followed any number of times. -/
theorem Leads.replicate {source : Source} {loop : List Nat}
    (leads : Leads read source loop source) (times : Nat) :
    Leads read source (List.replicate times loop).flatten source := by
  induction times with
  | zero => exact .here
  | succ times inductionHypothesis =>
      rw [List.replicate_succ, List.flatten_cons]
      exact leads.append inductionHypothesis

/-- The source that a way leads to. -/
def destination? (read : String → Except ReadFault String) : List Nat → Source → Option Source
  | [], source => some source
  | position :: steps, source => do
      let below ← (source.includes read).toOption
      destination? read steps (← below[position]?)

theorem leads_iff (source : Source) (steps : List Nat) (reached : Source) :
    Leads read source steps reached ↔ destination? read steps source = some reached := by
  induction steps generalizing source with
  | nil => rw [leads_nil_iff, destination?, Option.some.injEq, eq_comm]
  | cons position steps inductionHypothesis =>
      rw [leads_cons_iff, destination?]
      cases source.includes read with
      | error error => simp [Except.toOption]
      | ok below => simp [Except.toOption, inductionHypothesis, Option.bind_eq_some_iff]

/-- A way leads to one source only. -/
theorem Leads.unique {source first second : Source} {steps : List Nat}
    (leads : Leads read source steps first) (others : Leads read source steps second) :
    first = second := by
  rw [leads_iff] at leads others
  exact Option.some.inj (leads.symm.trans others)

/-! ### Offences -/

theorem Offends.unique {levels depth : Nat} {source : Source} {first second : ConfigError}
    (offends : Offends read levels depth source first)
    (others : Offends read levels depth source second) : first = second := by
  cases offends with
  | deep deep =>
      cases others with
      | deep _ => rfl
      | flawed shallow _ => omega
  | flawed shallow flaw =>
      cases others with
      | deep deep => omega
      | flawed _ otherFlaw =>
          rw [flaw_iff] at flaw otherFlaw
          exact Except.error.inj (flaw.symm.trans otherFlaw)

/-- A source offends from within as it does where there is one level less. -/
theorem offends_succ_iff {levels depth : Nat} {source : Source} {error : ConfigError} :
    Offends read (levels + 1) (depth + 1) source error ↔
      Offends read levels depth source error := by
  constructor
  · rintro (deep | ⟨shallow, flaw⟩)
    · exact .deep (Nat.le_of_succ_le_succ deep)
    · exact .flawed (Nat.lt_of_succ_lt_succ shallow) flaw
  · rintro (deep | ⟨shallow, flaw⟩)
    · exact .deep (Nat.succ_le_succ deep)
    · exact .flawed (Nat.succ_lt_succ shallow) flaw

/-- A source does not offend exactly when it is sound and not too deep. -/
theorem forall_not_offends_iff {levels depth : Nat} {source : Source} :
    (∀ error, ¬ Offends read levels depth source error) ↔ depth < levels ∧ source.Sound read := by
  rw [sound_iff]
  constructor
  · intro faultless
    have shallow : depth < levels := Nat.lt_of_not_le fun deep => faultless _ (.deep deep)
    cases includes : source.includes read with
    | ok below => exact ⟨shallow, below, rfl⟩
    | error error =>
        exact absurd (.flawed shallow ((flaw_iff source error).mpr includes)) (faultless error)
  · rintro ⟨shallow, below, includes⟩ error (deep | ⟨_, flaw⟩)
    · exact absurd shallow (Nat.not_lt_of_le deep)
    · cases includes.symm.trans ((flaw_iff source error).mp flaw)

theorem FirstOffence.unique {levels : Nat} {source : Source} {first second : ConfigError}
    (offence : FirstOffence read levels source first)
    (other : FirstOffence read levels source second) : first = second := by
  obtain ⟨steps, reached, leads, offends, earlier⟩ := offence
  obtain ⟨otherSteps, otherReached, otherLeads, otherOffends, otherEarlier⟩ := other
  obtain before | rfl | before := lt_trichotomy steps otherSteps
  · exact absurd offends (otherEarlier steps before reached leads first)
  · cases leads.unique otherLeads
    exact offends.unique otherOffends
  · exact absurd otherOffends (earlier otherSteps before otherReached otherLeads second)

theorem FirstOffenceAmong.unique {levels : Nat} {sources : List Source}
    {first second : ConfigError} (offence : FirstOffenceAmong read levels sources first)
    (other : FirstOffenceAmong read levels sources second) : first = second := by
  obtain ⟨position, source, found, firstOffence, earlier⟩ := offence
  obtain ⟨otherPosition, otherSource, otherFound, otherFirst, otherEarlier⟩ := other
  obtain before | rfl | before := lt_trichotomy position otherPosition
  · obtain ⟨steps, reached, leads, offends, _⟩ := firstOffence
    exact absurd offends (otherEarlier position before source found steps reached leads first)
  · cases found.symm.trans otherFound
    exact firstOffence.unique otherFirst
  · obtain ⟨steps, reached, leads, offends, _⟩ := otherFirst
    exact absurd offends
      (earlier otherPosition before otherSource otherFound steps reached leads second)

/-! ### The traversal -/

theorem succeeds_layers_succ_iff (levels : Nat) (source : Source) :
    (layers read (levels + 1) source).Succeeds ↔
      ∃ below, source.includes read = .ok below ∧
        ∀ next ∈ below, (layers read levels next).Succeeds := by
  simp only [layers_succ, includes_eq_ok_iff, ← Traced.succeeds_mapM_iff, Traced.succeeds_bind_iff,
    Traced.outcome_ofExcept, Traced.outcome_report, Traced.succeeds_pure, and_true]
  constructor
  · rintro ⟨document, reads, _, _, names, listed, below, yields⟩
    exact ⟨_, ⟨document, names, reads, listed, rfl⟩, below, yields⟩
  · rintro ⟨_, ⟨document, names, reads, listed, rfl⟩, below, yields⟩
    exact ⟨document, reads, (), trivial, names, listed, below, yields⟩

theorem includes_or_below_of_outcome_layers_succ {levels : Nat} {source : Source}
    {error : ConfigError} (fails : (layers read (levels + 1) source).outcome = .error error) :
    source.includes read = .error error ∨
      ∃ below, source.includes read = .ok below ∧
        (below.mapM (layers read levels)).outcome = .error error := by
  simp only [layers_succ, Traced.outcome_bind_eq_error_iff, Traced.outcome_ofExcept,
    Traced.outcome_report, Traced.outcome_pure, reduceCtorEq, and_false, exists_false, or_false,
    false_or] at fails
  rw [includes_eq_error_iff]
  obtain unread | ⟨document, reads, _, _, unlisted | ⟨names, listed, belowFails⟩⟩ := fails
  · exact .inl (.inl unread)
  · exact .inl (.inr ⟨document, reads, unlisted⟩)
  · exact .inr ⟨_, (includes_eq_ok_iff source _).mpr ⟨document, names, reads, listed, rfl⟩,
      belowFails⟩

/-- A source that has layers leads to no offence. -/
theorem not_offends_of_succeeds_layers {levels : Nat} {source reached : Source} {steps : List Nat}
    (succeeds : (layers read levels source).Succeeds) (leads : Leads read source steps reached)
    (error : ConfigError) : ¬ Offends read levels steps.length reached error := by
  induction levels generalizing source steps with
  | zero => exact absurd succeeds (Traced.not_succeeds_fail _)
  | succ levels inductionHypothesis =>
      obtain ⟨below, includes, succeed⟩ := (succeeds_layers_succ_iff levels source).mp succeeds
      cases steps with
      | nil =>
          rw [leads_nil_iff.mp leads]
          exact forall_not_offends_iff.mpr
            ⟨Nat.succ_pos levels, (sound_iff source).mpr ⟨below, includes⟩⟩ error
      | cons position steps =>
          obtain ⟨others, next, otherIncludes, found, leads⟩ := leads_cons_iff.mp leads
          cases includes.symm.trans otherIncludes
          rw [List.length_cons, offends_succ_iff]
          exact inductionHypothesis (succeed next (List.mem_of_getElem? found)) leads

/-- Nothing comes before a source itself. -/
theorem FirstOffence.ofOwn {levels : Nat} {source : Source} {error : ConfigError}
    (offends : Offends read levels 0 source error) : FirstOffence read levels source error :=
  ⟨[], source, .here, offends, fun steps earlier => absurd earlier (List.not_lt_nil steps)⟩

/-- Sources without an offence among those that they include fail with the first of these. -/
theorem FirstOffence.ofBelow {levels : Nat} {source : Source} {below : List Source}
    {error : ConfigError} (includes : source.includes read = .ok below)
    (offence : FirstOffenceAmong read levels below error) :
    FirstOffence read (levels + 1) source error := by
  obtain ⟨position, next, found, ⟨steps, reached, leads, offends, earlier⟩, before⟩ := offence
  refine ⟨position :: steps, reached, .step ((includes_iff source below).mpr includes) found leads,
    offends_succ_iff.mpr offends, ?_⟩
  intro way isEarlier other otherLeads fault
  cases way with
  | nil =>
      rw [leads_nil_iff.mp otherLeads]
      exact forall_not_offends_iff.mpr
        ⟨Nat.succ_pos levels, (sound_iff source).mpr ⟨below, includes⟩⟩ fault
  | cons otherPosition way =>
      obtain ⟨others, otherNext, otherIncludes, otherFound, otherLeads⟩ :=
        leads_cons_iff.mp otherLeads
      cases includes.symm.trans otherIncludes
      rw [List.length_cons, offends_succ_iff]
      obtain isBefore | ⟨rfl, isBefore⟩ := List.cons_lt_cons_iff.mp isEarlier
      · exact before otherPosition isBefore otherNext otherFound way other otherLeads fault
      · cases found.symm.trans otherFound
        exact earlier way isBefore other otherLeads fault

theorem firstOffenceAmong_of_outcome_mapM {levels : Nat} {sources : List Source}
    {error : ConfigError}
    (first : ∀ source, (layers read levels source).outcome = .error error →
      FirstOffence read levels source error)
    (fails : (sources.mapM (layers read levels)).outcome = .error error) :
    FirstOffenceAmong read levels sources error := by
  obtain ⟨position, source, found, sourceFails, before⟩ :=
    Traced.exists_getElem?_of_outcome_mapM_eq_error fails
  refine ⟨position, source, found, first source sourceFails, ?_⟩
  intro earlier isEarlier other otherFound steps reached leads
  exact not_offends_of_succeeds_layers (before earlier isEarlier other otherFound) leads

/-- A source without layers fails with the first offence that it leads to. -/
theorem firstOffence_of_outcome_layers {levels : Nat} {source : Source} {error : ConfigError}
    (fails : (layers read levels source).outcome = .error error) :
    FirstOffence read levels source error := by
  induction levels generalizing source with
  | zero =>
      cases fails
      exact .ofOwn (.deep (Nat.le_refl 0))
  | succ levels inductionHypothesis =>
      obtain unknown | ⟨below, includes, belowFails⟩ :=
        includes_or_below_of_outcome_layers_succ fails
      · exact .ofOwn (.flawed (Nat.succ_pos levels) ((flaw_iff source error).mpr unknown))
      · exact .ofBelow includes (firstOffenceAmong_of_outcome_mapM
          (fun next nextFails => inductionHypothesis nextFails) belowFails)

mutual

/-- Layers are found in the order of the traversal, whatever the number of levels. -/
theorem Visits.traverses {levels : Nat} {source : Source} {found : List Layer} :
    Visits read levels source found →
      ∃ visited, Traverses read source visited ∧ found.map Layer.name = visited.map name
  | .document reads listed below => by
      obtain ⟨visited, traverses, same⟩ := below.traversesAll
      refine ⟨visited ++ [source],
        .source ((includes_iff source _).mpr
          ((includes_eq_ok_iff source _).mpr ⟨_, _, reads, listed, rfl⟩)) traverses, ?_⟩
      rw [List.map_append, List.map_append, same]
      rfl

theorem VisitsAll.traversesAll {levels : Nat} {sources : List Source} {found : List Layer} :
    VisitsAll read levels sources found →
      ∃ visited, TraversesAll read sources visited ∧ found.map Layer.name = visited.map name
  | .nil => ⟨[], .nil, rfl⟩
  | .cons firstVisits othersVisit => by
      obtain ⟨first, firstTraverses, sameFirst⟩ := firstVisits.traverses
      obtain ⟨others, othersTraverse, sameOthers⟩ := othersVisit.traversesAll
      refine ⟨first ++ others, .cons firstTraverses othersTraverse, ?_⟩
      rw [List.map_append, List.map_append, sameFirst, sameOthers]

end

end BotConfig.Source

namespace BotConfig.Loader

variable {loader : Loader} {world : World} {sources : List Source}

theorem not_offends_of_outcome_merge {merged : Merged} {source reached : Source}
    {steps : List Nat} (merges : (loader.merge world sources).outcome = .ok merged)
    (listed : source ∈ sources) (leads : Source.Leads world.read source steps reached)
    (error : ConfigError) :
    ¬ Source.Offends world.read (Source.maxIncludeDepth + 1) steps.length reached error := by
  obtain ⟨layers, visits, -⟩ := (outcome_merge_eq_ok_iff _ _ _ _).mp merges
  obtain ⟨parts, yields, -⟩ := (Source.visitsAll_iff_of_visits_iff
    (Source.outcome_layers_eq_ok_iff _) sources layers).mpr visits
  have succeeds := (Traced.succeeds_mapM_iff _ _).mp ⟨parts, yields⟩ source listed
  exact Source.not_offends_of_succeeds_layers succeeds leads error

theorem firstOffence_of_outcome_merge {error : ConfigError}
    (fails : (loader.merge world sources).outcome = .error error) :
    Source.FirstOffenceAmong world.read (Source.maxIncludeDepth + 1) sources error := by
  unfold merge Source.allLayers at fails
  dsimp only at fails
  rw [apply_ite Traced.outcome, Traced.outcome_report_bind, ite_self] at fails
  simp only [Traced.outcome_bind_eq_error_iff, Traced.outcome_reportAll, Traced.outcome_pure,
    reduceCtorEq, and_false, exists_false, or_false] at fails
  exact Source.firstOffenceAmong_of_outcome_mapM
    (fun source => Source.firstOffence_of_outcome_layers) fails

theorem exists_offence_of_outcome_merge {error : ConfigError}
    (fails : (loader.merge world sources).outcome = .error error) :
    ∃ source ∈ sources, ∃ steps reached, Source.Leads world.read source steps reached ∧
      Source.Offends world.read (Source.maxIncludeDepth + 1) steps.length reached error := by
  obtain ⟨position, source, found, ⟨steps, reached, leads, offends, -⟩, -⟩ :=
    firstOffence_of_outcome_merge fails
  exact ⟨source, List.mem_of_getElem? found, steps, reached, leads, offends⟩

theorem outcome_merge_eq_error_iff (error : ConfigError) :
    (loader.merge world sources).outcome = .error error ↔
      Source.FirstOffenceAmong world.read (Source.maxIncludeDepth + 1) sources error := by
  constructor
  · exact firstOffence_of_outcome_merge
  · intro offence
    cases outcome : (loader.merge world sources).outcome with
    | error other => rw [(firstOffence_of_outcome_merge outcome).unique offence]
    | ok merged =>
        obtain ⟨position, source, found, ⟨steps, reached, leads, offends, -⟩, -⟩ := offence
        exact absurd offends
          (not_offends_of_outcome_merge outcome (List.mem_of_getElem? found) leads error)

theorem exists_outcome_merge_eq_ok_iff :
    (∃ merged, (loader.merge world sources).outcome = .ok merged) ↔
      ∀ source ∈ sources, ∀ steps reached, Source.Leads world.read source steps reached →
        steps.length ≤ Source.maxIncludeDepth ∧ reached.Sound world.read := by
  constructor
  · rintro ⟨merged, merges⟩ source listed steps reached leads
    obtain ⟨shallow, sound⟩ := Source.forall_not_offends_iff.mp
      (not_offends_of_outcome_merge merges listed leads)
    exact ⟨Nat.le_of_lt_succ shallow, sound⟩
  · intro faultless
    cases outcome : (loader.merge world sources).outcome with
    | ok merged => exact ⟨merged, rfl⟩
    | error error =>
        obtain ⟨source, listed, steps, reached, leads, offends⟩ :=
          exists_offence_of_outcome_merge outcome
        obtain ⟨shallow, sound⟩ := faultless source listed steps reached leads
        exact absurd offends
          (Source.forall_not_offends_iff.mpr ⟨Nat.lt_succ_of_le shallow, sound⟩ error)

/-- A loop leads deeper than any number of levels. -/
theorem exists_error_of_loop {source reached : Source} {steps loop : List Nat}
    (listed : source ∈ sources) (leads : Source.Leads world.read source steps reached)
    (loops : Source.Leads world.read reached loop reached) (moves : loop ≠ []) :
    ∃ error, (loader.merge world sources).outcome = .error error := by
  cases outcome : (loader.merge world sources).outcome with
  | error error => exact ⟨error, rfl⟩
  | ok merged =>
      have deep := leads.append (loops.replicate (Source.maxIncludeDepth + 1))
      have shallow := (exists_outcome_merge_eq_ok_iff.mp ⟨merged, outcome⟩ source listed _ _ deep).1
      have isLong : 0 < loop.length := List.length_pos_iff.mpr moves
      simp only [List.length_append, List.length_flatten, List.map_replicate,
        List.sum_replicate_nat, Source.maxIncludeDepth] at shallow
      omega

/-- Merging gets past the documents exactly when every chain of includes has at most five steps
and every document on it is sound.  The files come in the order of the traversal, an error is that
of the first offence, and includes that form a loop end in an error. -/
theorem merge_follows_includes (loader : Loader) (world : World) (sources : List Source) :
    ((∃ merged, (loader.merge world sources).outcome = .ok merged) ↔
      ∀ source ∈ sources, ∀ steps reached, Source.Leads world.read source steps reached →
        steps.length ≤ Source.maxIncludeDepth ∧ reached.Sound world.read) ∧
    (∀ merged, (loader.merge world sources).outcome = .ok merged →
      ∃ visited, Source.TraversesAll world.read sources visited ∧
        merged.files = visited.map Source.name) ∧
    (∀ error, (loader.merge world sources).outcome = .error error ↔
      Source.FirstOffenceAmong world.read (Source.maxIncludeDepth + 1) sources error) ∧
    (∀ source ∈ sources, ∀ steps reached loop, Source.Leads world.read source steps reached →
      Source.Leads world.read reached loop reached → loop ≠ [] →
        ∃ error, (loader.merge world sources).outcome = .error error) := by
  refine ⟨exists_outcome_merge_eq_ok_iff, ?_, outcome_merge_eq_error_iff, ?_⟩
  · intro merged merges
    obtain ⟨layers, visits, rfl⟩ := (outcome_merge_eq_ok_iff _ _ _ _).mp merges
    exact visits.traversesAll
  · intro source listed steps reached loop leads loops moves
    exact exists_error_of_loop listed leads loops moves

/-- A world with documents in folders: one lists a file below its own folder and one by its place in
the root, the first of these lists a file in the folder above, and another lists itself. -/
def folderWorld : World where
  read := (FileTree.empty
    |>.write "conf/main.yaml" (.text "add_config_files: [parts/first.yaml, /work/conf/last.yaml]")
    |>.write "conf/parts/first.yaml" (.text "add_config_files: [../second.yaml]")
    |>.write "conf/second.yaml" (.text "dry_run: true")
    |>.write "conf/last.yaml" (.text "dry_run: false")
    |>.write "conf/loop.yaml" (.text "add_config_files: [loop.yaml]")).read
  environment := []

/-- A document in a folder, and one that is given inline. -/
def folderSources : List Source :=
  [.file "conf/main.yaml", .inline "given.yaml" "add_config_files: [conf/last.yaml]"]

/-- A file that includes itself. -/
def loop : Source := .file "conf/loop.yaml"

theorem merge_follows_includes_in_folders :
    (∃ visited, Source.TraversesAll folderWorld.read folderSources visited ∧
      visited.map Source.name = ["conf/parts/../second.yaml", "conf/parts/first.yaml",
        "/work/conf/last.yaml", "conf/main.yaml", "./conf/last.yaml", "given.yaml"]) ∧
    Source.Leads folderWorld.read loop [0] loop ∧
    ∃ error, (merge ⟨none⟩ folderWorld [loop]).outcome = .error error ∧
      Source.FirstOffenceAmong folderWorld.read (Source.maxIncludeDepth + 1) [loop] error := by
  have merges : ((merge ⟨none⟩ folderWorld folderSources).outcome.toOption.any fun merged =>
      merged.files == ["conf/parts/../second.yaml", "conf/parts/first.yaml",
        "/work/conf/last.yaml", "conf/main.yaml", "./conf/last.yaml", "given.yaml"]) = true := by
    decide +kernel
  have leads : Source.Leads folderWorld.read loop [0] loop :=
    (Source.leads_iff loop [0] loop).mpr (by decide +kernel)
  obtain ⟨merged, succeeds, files⟩ := Traced.exists_eq_ok_of_any merges
  obtain ⟨-, follows, -, -⟩ := merge_follows_includes ⟨none⟩ folderWorld folderSources
  obtain ⟨-, -, firstOffence, looping⟩ := merge_follows_includes ⟨none⟩ folderWorld [loop]
  obtain ⟨visited, traverses, named⟩ := follows merged succeeds
  obtain ⟨error, fails⟩ := looping loop List.mem_cons_self [] loop [0] .here leads
    (List.cons_ne_nil 0 [])
  exact ⟨⟨visited, traverses, named.symm.trans (eq_of_beq files)⟩, leads, error, fails,
    (firstOffence error).mp fails⟩

end BotConfig.Loader
