import BotConfig.Override
import BotConfig.Source
import BotConfig.Proofs.Closed
import BotConfig.Proofs.Traced

/-!
What every reader keeps.

A property that values have as soon as their parts have it holds of all that is read, from a
document in either format or from an environment variable.  One such property is that the keys of
mappings ascend at every depth.
-/

namespace BotConfig

/-- What a computation yields, if it yields anything, has a property. -/
def Yields {ε α : Type} (property : α → Prop) (outcome : Except ε α) : Prop :=
  ∀ result, outcome = .ok result → property result

namespace Yields

variable {ε δ α β : Type} {property : α → Prop} {goal : β → Prop}

theorem ok {result : α} (holds : property result) :
    Yields property (.ok result : Except ε α) := by
  rintro _ ⟨⟩
  exact holds

theorem error (error : ε) : Yields property (.error error : Except ε α) := by
  rintro _ ⟨⟩

theorem bind {first : Except ε α} {next : α → Except ε β} (yields : Yields property first)
    (continues : ∀ result, property result → Yields goal (next result)) :
    Yields goal (first >>= next) := by
  cases first with
  | error fault => exact error fault
  | ok result => exact continues result (yields result rfl)

/-- A computation about whose result nothing is needed. -/
theorem any (outcome : Except ε α) : Yields (fun _ => True) outcome := fun _ _ => trivial

theorem map {outcome : Except ε α} {change : α → β} (yields : Yields property outcome)
    (changes : ∀ result, property result → goal (change result)) :
    Yields goal (outcome.map change) := by
  cases outcome with
  | error fault => exact error fault
  | ok result => exact ok (changes result (yields result rfl))

theorem mapError {outcome : Except ε α} (yields : Yields property outcome) (convert : ε → δ) :
    Yields property (outcome.mapError convert) := by
  cases outcome with
  | error fault => exact error (convert fault)
  | ok result => exact ok (yields result rfl)

end Yields

theorem Traced.yields_bind {α β : Type} {property : α → Prop} {goal : β → Prop} {first : Traced α}
    {next : α → Traced β} (yields : Yields property first.outcome)
    (continues : ∀ result, property result → Yields goal (next result).outcome) :
    Yields goal (first >>= next).outcome := by
  rw [outcome_bind]
  exact yields.bind continues

variable {holds : Value → Prop}

/-! ### Strict documents -/

namespace Strict

theorem fst_appendDigits_lt {significand : Nat} (fits : significand < twoTo 64)
    (digits : List Char) : (appendDigits significand digits).1 < twoTo 64 := by
  induction digits generalizing significand with
  | nil => exact fits
  | cons c rest inductionHypothesis =>
      rw [appendDigits]
      split
      · rename_i longerFits
        exact inductionHypothesis longerFits
      · exact fits

theorem NumberSpelling.fits_of_value? {spelling : NumberSpelling} {number : Number}
    (reads : spelling.value? = some number) : number.Fits := by
  have leadingFits := fst_appendDigits_lt (by decide : 0 < twoTo 64) spelling.whole
  unfold value? at reads
  dsimp only at reads
  split at reads
  · cases reads
    refine ⟨?_, ?_⟩
    · simp only [Number.leastInteger]
      omega
    · simp only [Number.greatestInteger]
      omega
  · split at reads
    · rename_i small
      simp only [Bool.and_eq_true, decide_eq_true_eq] at small
      cases reads
      refine ⟨?_, ?_⟩
      · simp only [Number.leastInteger]
        omega
      · simp only [Number.greatestInteger]
        omega
    · rw [Option.map_eq_some_iff] at reads
      obtain ⟨value, -, rfl⟩ := reads
      trivial

theorem fits_of_closeNumber (spelling : NumberSpelling) (exponentPlace place : Place)
    (rest : List Char) :
    Yields (fun read => read.1.Fits) (closeNumber spelling exponentPlace place rest) := by
  unfold closeNumber
  dsimp only
  split
  · split
    · exact .ok trivial
    · exact .error _
  · exact .ok trivial
  · split
    · rename_i reads
      exact .ok (NumberSpelling.fits_of_value? reads)
    · exact .error _

theorem fits_of_scanAfterFraction (spelling : NumberSpelling) (place : Place)
    (text : List Char) :
    Yields (fun read => read.1.Fits) (scanAfterFraction spelling place text) := by
  unfold scanAfterFraction
  split
  · split
    · unfold scanExponent
      dsimp only
      split
      · exact .error _
      · split
        · exact fits_of_closeNumber _ _ _ _
        · exact .error _
    · exact fits_of_closeNumber _ _ _ _
  · exact fits_of_closeNumber _ _ _ _

theorem fits_of_scanAfterWhole (spelling : NumberSpelling) (place : Place) (text : List Char) :
    Yields (fun read => read.1.Fits) (scanAfterWhole spelling place text) := by
  unfold scanAfterWhole
  split
  · dsimp only
    split
    · split <;> exact .error _
    · exact fits_of_scanAfterFraction _ _ _
  · exact fits_of_scanAfterFraction _ _ _

theorem fits_of_scanNumber (negative : Bool) (place : Place) (text : List Char) :
    Yields (fun read => read.1.Fits) (scanNumber negative place text) := by
  unfold scanNumber
  split
  · exact .error _
  · split
    · split
      · exact .error _
      · exact fits_of_scanAfterWhole _ _ _
    · exact fits_of_scanAfterWhole _ _ _
  · dsimp only
    split
    · exact fits_of_scanAfterWhole _ _ _
    · exact .error _

/-- A token that is a number is one that fits. -/
def Token.Fits : Token → Prop
  | .number value => value.Fits
  | _ => True

theorem fits_of_scanToken (place : Place) (c : Char) (rest : List Char) :
    Yields (fun read => read.1.Fits) (scanToken place c rest) := by
  have word (letters : List Char) {token : Token} (fits : token.Fits) :
      Yields (fun read => read.1.Fits)
        ((scanWord (place.after c) letters rest).map fun scanned => (token, scanned.2)) :=
    (Yields.any _).map fun _ _ => fits
  have number {scanned : Scanned Number} (yields : Yields (fun read => read.1.Fits) scanned) :
      Yields (fun read => read.1.Fits) (scanned.map fun read => (Token.number read.1, read.2)) :=
    yields.map fun _ fits => fits
  unfold scanToken
  dsimp only
  split
  · exact .ok trivial
  · exact .ok trivial
  · exact .ok trivial
  · exact .ok trivial
  · exact .ok trivial
  · exact .ok trivial
  · exact word _ trivial
  · exact word _ trivial
  · exact word _ trivial
  · exact (Yields.any _).map fun _ _ => trivial
  · exact number (fits_of_scanNumber _ _ _)
  · split
    · exact number (fits_of_scanNumber _ _ _)
    · exact .error _

/-- The lexemes of a text hold numbers that fit. -/
theorem fits_of_mem_lexemes (fuel : Nat) (place : Place) (text : List Char) :
    ∀ lexeme ∈ lexemes fuel place text, lexeme.token.Fits := by
  induction fuel generalizing place text with
  | zero => cases text <;> simp [lexemes, Token.Fits]
  | succ fuel inductionHypothesis =>
      cases text with
      | nil => simp [lexemes, Token.Fits]
      | cons c rest =>
          rw [lexemes]
          split
          · exact inductionHypothesis _ _
          · split
            · simp [Token.Fits]
            · rename_i scans
              exact List.forall_mem_cons.mpr
                ⟨fits_of_scanToken _ _ _ _ scans, inductionHypothesis _ _⟩

theorem fits_of_afterItem {lexemes : List Lexeme} (fit : ∀ lexeme ∈ lexemes, lexeme.token.Fits) :
    Yields (fun read => ∀ lexeme ∈ read.2, lexeme.token.Fits) (afterItem lexemes) := by
  unfold afterItem
  split
  · exact .ok (List.forall_mem_cons.mp fit).2
  · exact .error _
  · exact .ok (List.forall_mem_cons.mp fit).2
  · exact .error _
  · exact .error _

theorem fits_of_afterEntry {lexemes : List Lexeme} (fit : ∀ lexeme ∈ lexemes, lexeme.token.Fits) :
    Yields (fun read => ∀ lexeme ∈ read.2, lexeme.token.Fits) (afterEntry lexemes) := by
  unfold afterEntry
  split
  · exact .ok (List.forall_mem_cons.mp fit).2
  · exact .error _
  · exact .ok (List.forall_mem_cons.mp fit).2
  · exact .error _
  · exact .error _

theorem fits_of_readKey {lexemes : List Lexeme} (fit : ∀ lexeme ∈ lexemes, lexeme.token.Fits) :
    Yields (fun read => ∀ lexeme ∈ read.2, lexeme.token.Fits) (readKey lexemes) := by
  unfold readKey
  split
  · exact .ok (List.forall_mem_cons.mp (List.forall_mem_cons.mp fit).2).2
  · exact .error _
  · exact .error _
  · exact .error _
  · exact .error _
  · exact .error _

/-- What has been read has the property, and the lexemes that are left hold numbers that fit. -/
def Keeps {α : Type} (property : α → Prop) (outcome : Except SyntaxFailure (α × List Lexeme)) :
    Prop :=
  Yields (fun read => property read.1 ∧ ∀ lexeme ∈ read.2, lexeme.token.Fits) outcome

/-- What the readers keep with so much fuel. -/
structure KeptWith (holds : Value → Prop) (fuel : Nat) : Prop where
  value : ∀ {depth lexemes}, (∀ lexeme ∈ lexemes, lexeme.token.Fits) →
    Keeps holds (readValue fuel depth lexemes)
  items : ∀ {depth lexemes}, (∀ lexeme ∈ lexemes, lexeme.token.Fits) →
    Keeps (fun items => ∀ item ∈ items, holds item) (readItems fuel depth lexemes)
  entries : ∀ {depth lexemes}, (∀ lexeme ∈ lexemes, lexeme.token.Fits) →
    Keeps (fun entries => ∀ entry ∈ entries, holds entry.2) (readEntries fuel depth lexemes)

section Step

variable {fuel depth : Nat} {lexemes : List Lexeme}

theorem KeptWith.value_succ (closed : Value.Closed holds) (kept : KeptWith holds fuel)
    (fit : ∀ lexeme ∈ lexemes, lexeme.token.Fits) :
    Keeps holds (readValue (fuel + 1) depth lexemes) := by
  unfold readValue
  dsimp only
  split
  · exact .ok ⟨closed.null, (List.forall_mem_cons.mp fit).2⟩
  · exact .ok ⟨closed.boolean _, (List.forall_mem_cons.mp fit).2⟩
  · obtain ⟨numberFits, restFit⟩ := List.forall_mem_cons.mp fit
    exact .ok ⟨closed.number numberFits, restFit⟩
  · exact .ok ⟨closed.text _, (List.forall_mem_cons.mp fit).2⟩
  · have restFit := (List.forall_mem_cons.mp fit).2
    split
    · exact .error _
    · split
      · exact .ok ⟨closed.list (by simp), (List.forall_mem_cons.mp restFit).2⟩
      · exact .error _
      · exact .bind (kept.items restFit) fun _ inside => .ok ⟨closed.list inside.1, inside.2⟩
  · have restFit := (List.forall_mem_cons.mp fit).2
    split
    · exact .error _
    · split
      · have empty : holds (.mapping (Fields.ofEntries [])) := closed.mapping (by simp)
        exact .ok ⟨empty, (List.forall_mem_cons.mp restFit).2⟩
      · exact .error _
      · exact .bind (kept.entries restFit) fun _ inside =>
          .ok ⟨closed.mapping inside.1, inside.2⟩
  · exact .error _
  · exact .error _
  · exact .error _

theorem KeptWith.items_succ (kept : KeptWith holds fuel)
    (fit : ∀ lexeme ∈ lexemes, lexeme.token.Fits) :
    Keeps (fun items => ∀ item ∈ items, holds item) (readItems (fuel + 1) depth lexemes) := by
  rw [readItems]
  refine .bind (kept.value fit) ?_
  rintro ⟨first, rest⟩ ⟨firstHolds, restFit⟩
  refine .bind (fits_of_afterItem restFit) ?_
  rintro ⟨separator, rest⟩ restFit
  cases separator with
  | close => exact .ok ⟨by simpa using firstHolds, restFit⟩
  | more =>
      refine .bind (kept.items restFit) fun others inside => .ok ⟨?_, inside.2⟩
      exact List.forall_mem_cons.mpr ⟨firstHolds, inside.1⟩

theorem KeptWith.entries_succ (kept : KeptWith holds fuel)
    (fit : ∀ lexeme ∈ lexemes, lexeme.token.Fits) :
    Keeps (fun entries => ∀ entry ∈ entries, holds entry.2)
      (readEntries (fuel + 1) depth lexemes) := by
  rw [readEntries]
  refine .bind (fits_of_readKey fit) ?_
  rintro ⟨key, rest⟩ restFit
  refine .bind (kept.value restFit) ?_
  rintro ⟨first, rest⟩ ⟨firstHolds, restFit⟩
  refine .bind (fits_of_afterEntry restFit) ?_
  rintro ⟨separator, rest⟩ restFit
  cases separator with
  | close => exact .ok ⟨by simpa using firstHolds, restFit⟩
  | more =>
      refine .bind (kept.entries restFit) fun others inside => .ok ⟨?_, inside.2⟩
      exact List.forall_mem_cons.mpr ⟨firstHolds, inside.1⟩

end Step

theorem keptWith (closed : Value.Closed holds) (fuel : Nat) : KeptWith holds fuel := by
  induction fuel with
  | zero =>
      refine ⟨fun _ => ?_, fun _ => ?_, fun _ => ?_⟩
      · rw [readValue]
        exact .error _
      · rw [readItems]
        exact .error _
      · rw [readEntries]
        exact .error _
  | succ fuel kept => exact ⟨kept.value_succ closed, kept.items_succ, kept.entries_succ⟩

theorem holds_of_read (closed : Value.Closed holds) (text : String) :
    Yields holds (read text) := by
  have fit := fits_of_mem_lexemes text.toList.length .start text.toList
  refine .bind ((keptWith closed _).value fit) fun value kept => ?_
  dsimp only
  split
  · exact .ok kept.1
  · exact .error _

end Strict

/-! ### Indented documents -/

namespace Yaml

theorem Scalar.holds_ofReal? (closed : Value.Closed holds) {content : String} {value : Value}
    (reads : ofReal? content = some value) : holds value := by
  unfold ofReal? at reads
  split at reads
  · cases reads
    exact closed.null
  · split at reads
    · cases reads
      exact closed.number trivial
    · cases reads

theorem Scalar.holds_ofInteger? (closed : Value.Closed holds) {content : String} {value : Value}
    (reads : ofInteger? content = some (.value value)) : holds value := by
  unfold ofInteger? at reads
  rw [Option.bind_eq_bind, Option.bind_eq_some_iff] at reads
  obtain ⟨whole, _, meaning⟩ := reads
  split at meaning
  · rename_i fits
    cases meaning
    exact closed.number fits
  · split at meaning <;> cases meaning

theorem Scalar.holds_ofPlain (closed : Value.Closed holds) {content : String} {value : Value}
    (reads : ofPlain content = .value value) : holds value := by
  unfold ofPlain at reads
  split at reads
  · cases reads
    exact closed.null
  · split at reads
    · cases reads
      exact closed.boolean _
    · split at reads
      · rename_i meaning isInteger
        subst reads
        exact holds_ofInteger? closed isInteger
      · cases reads
        cases number : if isZeroLed content.toList then none else ofReal? content with
        | none => exact closed.text content
        | some value =>
            split at number
            · cases number
            · exact holds_ofReal? closed number

namespace Build

variable {α β : Type} {property : α → Prop} {goal : β → Prop}

/-- What a step yields, if it yields anything, has a property. -/
def Yields (property : α → Prop) (build : Build α) : Prop :=
  ∀ whole walk, BotConfig.Yields (fun result => property result.1) (build whole walk)

namespace Yields

theorem pure {result : α} (holds : property result) : Yields property (Pure.pure result) :=
  fun _ _ => .ok holds

theorem throw (fault : Fault) : Yields property (MonadExcept.throw fault : Build α) :=
  fun _ _ => .error fault

theorem fail (path : Option String) (mark : Mark) (problem : String) :
    Yields property (fail path mark problem : Build α) := .throw _

/-- Nothing comes after a failure. -/
theorem throwFirst (fault : Fault) (next : α → Build β) :
    Yields goal ((MonadExcept.throw fault : Build α) >>= next) :=
  fun _ _ => .error fault

theorem bind {build : Build α} {next : α → Build β} (yields : Yields property build)
    (continues : ∀ result, property result → Yields goal (next result)) :
    Yields goal (build >>= next) :=
  fun whole walk => .bind (yields whole walk) fun result holds =>
    continues result.1 holds whole result.2

/-- A step about whose result nothing is needed. -/
theorem any (build : Build α) : Yields (fun _ => True) build := fun _ _ => .any _

theorem after {build : Build α} {next : α → Build β}
    (continues : ∀ result, Yields goal (next result)) : Yields goal (build >>= next) :=
  .bind (.any build) fun result _ => continues result

theorem atAnchor (number : Nat) {build : Build α} (yields : Yields property build) :
    Yields property (atAnchor number build) := by
  refine .after fun whole => .after fun _ => .after fun walk => .after fun again => ?_
  dsimp only
  split
  · exact .throwFirst _ _
  · split
    · exact .after fun _ => .bind yields fun result holds => .after fun _ => .pure holds
    · exact .throw _

end Yields

theorem yields_scalar (closed : Value.Closed holds) (path : Option String) (mark : Mark)
    (tag : Option String) (content : String) (style : Style) :
    Yields holds (scalar path mark tag content style) := by
  unfold scalar
  dsimp only
  split
  · split
    · split
      · rename_i reads
        exact .pure (Scalar.holds_ofPlain closed reads)
      · exact .fail _ _ _
    · exact .pure (closed.text content)
  · split
    · split
      · exact .pure (closed.boolean _)
      · exact .fail _ _ _
    · split
      · split
        · rename_i reads
          split
          · exact .pure (Scalar.holds_ofInteger? closed reads)
          · exact .fail _ _ _
        · exact .fail _ _ _
      · split
        · split
          · rename_i reads
            exact .pure (Scalar.holds_ofReal? closed reads)
          · exact .fail _ _ _
        · split
          · split
            · exact .pure closed.null
            · exact .fail _ _ _
          · exact .pure (closed.text content)

theorem yields_items {item : String → Build Value} (yields : ∀ path, Yields holds (item path))
    (path : Option String) (fuel index : Nat) :
    Yields (fun read => ∀ value ∈ read, holds value) (items item path fuel index) := by
  induction fuel generalizing index with
  | zero => exact .pure (by simp)
  | succ fuel inductionHypothesis =>
      refine .after fun event => ?_
      split
      · exact .after fun _ => .pure (by simp)
      · refine .bind (yields _) fun first firstHolds => ?_
        refine .bind (inductionHypothesis _) fun others othersHold => .pure ?_
        exact List.forall_mem_cons.mpr ⟨firstHolds, othersHold⟩

theorem yields_entries {value : String → Build Value}
    (yields : ∀ path, Yields holds (value path)) (path : Option String) (fuel : Nat) :
    Yields (fun read => ∀ entry ∈ read, holds entry.2) (entries value path fuel) := by
  induction fuel with
  | zero => exact .pure (by simp)
  | succ fuel inductionHypothesis =>
      refine .after fun event => ?_
      split
      · exact .after fun _ => .pure (by simp)
      · refine .after fun key => .bind (yields _) fun first firstHolds => ?_
        refine .bind inductionHypothesis fun others othersHold => .pure ?_
        exact List.forall_mem_cons.mpr ⟨firstHolds, othersHold⟩

theorem yields_node (closed : Value.Closed holds) {inner : Option (String → Build Value)}
    (yields : ∀ build ∈ inner, ∀ path, Yields holds (build path))
    (path : Option String) : Yields holds (node inner path) := by
  refine .after fun event => .after fun whole => ?_
  dsimp only
  split
  · split
    · exact .fail _ _ _
    · exact yields_scalar closed _ _ _ _ _
  · split
    · exact .fail _ _ _
    · split
      · exact .throw _
      · rename_i build
        refine .bind (yields_items (yields build rfl) path _ _) fun read items => ?_
        exact .pure (closed.list items)
  · split
    · exact .fail _ _ _
    · split
      · exact .throw _
      · rename_i build
        refine .bind (yields_entries (yields build rfl) path _) fun read entries => ?_
        exact .pure (closed.mapping entries)
  · exact .throw _

theorem yields_nodeOrAlias (closed : Value.Closed holds) {inner : Option (String → Build Value)}
    (yields : ∀ build ∈ inner, ∀ path, Yields holds (build path))
    (path : Option String) : Yields holds (nodeOrAlias inner path) := by
  refine .after fun event => ?_
  split
  · exact .after fun _ => .atAnchor _ (yields_node closed yields path)
  · exact yields_node closed yields path

theorem yields_value (closed : Value.Closed holds) (depth : Nat) (path : Option String) :
    Yields holds (value depth path) := by
  induction depth generalizing path with
  | zero => exact yields_nodeOrAlias closed (by simp) path
  | succ depth inductionHypothesis =>
      refine yields_nodeOrAlias closed ?_ path
      rintro build ⟨rfl⟩ inside
      exact inductionHypothesis (some inside)

end Build

theorem holds_of_read (closed : Value.Closed holds) (text : String) :
    BotConfig.Yields holds (read text) := by
  unfold read
  dsimp only
  split
  · refine .bind (.ok closed.null) fun value valueHolds => ?_
    split
    · exact .error _
    · split
      · exact .error _
      · exact .ok valueHolds
  · refine .bind (Build.yields_value closed _ _ _ _) fun built builtHolds => ?_
    refine .bind (.ok builtHolds) fun value valueHolds => ?_
    split
    · exact .error _
    · split
      · exact .error _
      · exact .ok valueHolds

end Yaml

/-! ### Documents -/

theorem Document.holds_of_readValue (closed : Value.Closed holds) (format : Format)
    (text : String) : Yields holds (readValue format text) := by
  cases format with
  | strict =>
      unfold readValue readStrict
      dsimp only
      split
      · exact .error _
      · exact (Strict.holds_of_read closed _).mapError _
  | indented => exact (Yaml.holds_of_read closed text).mapError _

theorem Document.holds_of_read (closed : Value.Closed holds) (name text : String) :
    Yields (fun document => holds (.mapping document)) (read name text) := by
  refine .bind (holds_of_readValue closed _ _) fun value valueHolds => ?_
  split
  · exact .ok valueHolds
  · exact .error _

theorem Source.holds_of_document (closed : Value.Closed holds)
    (readFile : String → Except ReadFault String) (source : Source) :
    Yields (fun document => holds (.mapping document)) (source.document readFile) :=
  .bind (.any _) fun _ _ => (Document.holds_of_read closed _ _).mapError _

/-! ### Environment variables -/

namespace Override

theorem nonnegative_of_integer? {text : List Char} {value : Int}
    (reads : Numeral.integer? 10 text = some value) (unsigned : text.head? ≠ some '-') :
    0 ≤ value := by
  unfold Numeral.integer? at reads
  split at reads
  · exact absurd rfl unsigned
  · obtain ⟨size, -, rfl⟩ := Option.map_eq_some_iff.mp reads
    exact Int.natCast_nonneg size
  · obtain ⟨size, -, rfl⟩ := Option.map_eq_some_iff.mp reads
    exact Int.natCast_nonneg size

theorem holds_plainValue (closed : Value.Closed holds) (text : List Char) :
    holds (plainValue text) := by
  unfold plainValue
  dsimp only
  split
  · exact closed.number trivial
  · exact closed.null
  · split
    · rename_i reads
      split
      · rename_i fits
        refine closed.number ?_
        rcases fits with ⟨unsigned, small⟩ | ⟨large, small⟩
        · refine ⟨?_, small⟩
          have nonnegative := nonnegative_of_integer? reads unsigned
          simp only [Number.leastInteger]
          omega
        · have wider : (twoTo 63 : Int) ≤ Number.greatestInteger := by decide
          exact ⟨large, Int.le_trans (Int.le_of_lt small) wider⟩
      · exact closed.text _
    · exact closed.text _

/-- What is found, if anything is, has a property. -/
def Finds {α : Type} (property : α → Prop) (found : Option α) : Prop :=
  ∀ result, found = some result → property result

namespace Finds

variable {α β : Type} {property : α → Prop} {goal : β → Prop}

theorem some {result : α} (holds : property result) : Finds property (some result) := by
  rintro _ ⟨⟩
  exact holds

theorem none : Finds property none := by
  rintro _ ⟨⟩

theorem bind {first : Option α} {next : α → Option β} (finds : Finds property first)
    (continues : ∀ result, property result → Finds goal (next result)) :
    Finds goal (first >>= next) := by
  cases first with
  | none => exact none
  | some result => exact continues result (finds result rfl)

theorem after {first : Option α} {next : α → Option β}
    (continues : ∀ result, Finds goal (next result)) : Finds goal (first >>= next) := by
  cases first with
  | none => exact none
  | some result => exact continues result

end Finds

/-- What the readers find with so much fuel. -/
structure FoundWith (holds : Value → Prop) (fuel : Nat) : Prop where
  value : ∀ text, Finds (fun read => holds read.1) (valueAt? fuel text)
  items : ∀ text, Finds (fun read => ∀ item ∈ read.1, holds item) (itemsAt? fuel text)
  entries : ∀ text, Finds (fun read => ∀ entry ∈ read.1, holds entry.2) (entriesAt? fuel text)

section Step

variable {fuel : Nat}

theorem FoundWith.value_succ (closed : Value.Closed holds) (found : FoundWith holds fuel)
    (text : List Char) : Finds (fun read => holds read.1) (valueAt? (fuel + 1) text) := by
  unfold valueAt?
  dsimp only
  split
  · exact .some (closed.boolean true)
  · exact .some (closed.boolean false)
  · exact .bind (found.entries _) fun _ entries => .some (closed.mapping entries)
  · exact .bind (found.items _) fun _ items => .some (closed.list items)
  · exact .after fun _ => .some (closed.text _)
  · exact .some (closed.text _)
  · exact .none
  · exact .some (holds_plainValue closed _)

theorem FoundWith.items_succ (found : FoundWith holds fuel) (text : List Char) :
    Finds (fun read => ∀ item ∈ read.1, holds item) (itemsAt? (fuel + 1) text) := by
  unfold itemsAt?
  dsimp only
  split
  · exact .none
  · exact .some (by simp)
  · rename_i sameFuel _
    cases sameFuel
    refine .bind (found.value _) fun first firstHolds => ?_
    split
    · refine .bind (found.items _) fun others othersHold => .some ?_
      exact List.forall_mem_cons.mpr ⟨firstHolds, othersHold⟩
    · exact .some (by simpa using firstHolds)
    · exact .none

theorem FoundWith.entries_succ (found : FoundWith holds fuel) (text : List Char) :
    Finds (fun read => ∀ entry ∈ read.1, holds entry.2) (entriesAt? (fuel + 1) text) := by
  unfold entriesAt?
  dsimp only
  split
  · exact .none
  · exact .some (by simp)
  · rename_i sameFuel _
    cases sameFuel
    refine .after fun key => ?_
    split
    · refine .bind (found.value _) fun first firstHolds => ?_
      split
      · refine .bind (found.entries _) fun others othersHold => .some ?_
        exact List.forall_mem_cons.mpr ⟨firstHolds, othersHold⟩
      · exact .some (by simpa using firstHolds)
      · exact .none
    · exact .none

end Step

theorem foundWith (closed : Value.Closed holds) (fuel : Nat) : FoundWith holds fuel := by
  induction fuel with
  | zero =>
      refine ⟨fun text => ?_, fun text => ?_, fun text => ?_⟩
      · rw [valueAt?]
        exact .none
      · rw [itemsAt?]
        exact .none
      · rw [entriesAt?]
        exact .none
  | succ fuel found => exact ⟨found.value_succ closed, found.items_succ, found.entries_succ⟩

theorem holds_parse (closed : Value.Closed holds) (content : String) :
    holds (parse content) := by
  unfold parse
  dsimp only
  split
  · rename_i reads
    exact (foundWith closed _).value _ _ reads
  · exact closed.text content

theorem ordered_parse (content : String) : (parse content).Ordered :=
  holds_parse Value.closed_ordered content

end Override

end BotConfig
