import BotConfig.Pattern.Reader
import Mathlib.Data.List.Infix

/-!
Reading a pattern moves forward.

Whatever is read leaves an end of what was there, and what starts with a character leaves less.
-/

namespace BotConfig.Pattern.Read

variable {α β σ : Type}

/-! ### Steps -/

theorem bind_run (first : Read α) (next : α → Read β) (reader : Reader) :
    (first >>= next) reader = (first reader).bind fun found => next found.1 found.2 := rfl

theorem bind_eq_some {first : Read α} {next : α → Read β} {reader after : Reader} {result : β}
    (reads : (first >>= next) reader = some (result, after)) :
    ∃ middle between, first reader = some (middle, between) ∧
      next middle between = some (result, after) := by
  rw [bind_run] at reads
  obtain ⟨⟨middle, between⟩, firstReads, nextReads⟩ := Option.bind_eq_some_iff.mp reads
  exact ⟨middle, between, firstReads, nextReads⟩

@[simp]
theorem failure_run (reader : Reader) : (failure : Read α) reader = none := rfl

@[simp]
theorem peek_cons (c : Char) (rest : List Char) (flags : Flags) (names : List String) :
    peek ⟨c :: rest, flags, names⟩ = some (c, ⟨c :: rest, flags, names⟩) := rfl

@[simp]
theorem get_run (reader : Reader) : (get : Read Reader) reader = some (reader, reader) := rfl

@[simp]
theorem advance_run (reader : Reader) :
    advance reader = some ((), { reader with rest := reader.rest.tail }) := rfl

theorem advanceBlanks_run (reader : Reader) :
    advanceBlanks reader = skipBlanks { reader with rest := reader.rest.tail } := rfl

/-! ### What is left -/

/-- What is left is an end of what was there. -/
def Shrinks (step : Read α) : Prop :=
  ∀ ⦃reader after : Reader⦄ ⦃result : α⦄, step reader = some (result, after) →
    after.rest <:+ reader.rest

/-- What is left comes behind the first character, if there is one. -/
def Takes (step : Read α) : Prop :=
  ∀ ⦃reader after : Reader⦄ ⦃result : α⦄, step reader = some (result, after) →
    after.rest <:+ reader.rest.tail

theorem Takes.shrinks {step : Read α} (takes : Takes step) : Shrinks step :=
  fun _ _ _ reads => (takes reads).trans (List.tail_suffix _)

theorem shrinks_pure (result : α) : Shrinks (pure result : Read α) := by
  intro reader after found reads
  cases reads
  exact List.suffix_refl _

theorem takes_failure : Takes (failure : Read α) := by
  rintro reader after result ⟨⟩

theorem shrinks_failure : Shrinks (failure : Read α) := by
  rintro reader after result ⟨⟩

theorem failure_bind (next : α → Read β) : (failure >>= next) = failure := rfl

theorem Shrinks.bind {first : Read α} {next : α → Read β} (firstShrinks : Shrinks first)
    (nextShrinks : ∀ result, Shrinks (next result)) : Shrinks (first >>= next) := by
  intro reader after result reads
  obtain ⟨middle, between, firstReads, nextReads⟩ := bind_eq_some reads
  exact (nextShrinks middle nextReads).trans (firstShrinks firstReads)

theorem Takes.bind {first : Read α} {next : α → Read β} (firstTakes : Takes first)
    (nextShrinks : ∀ result, Shrinks (next result)) : Takes (first >>= next) := by
  intro reader after result reads
  obtain ⟨middle, between, firstReads, nextReads⟩ := bind_eq_some reads
  exact (nextShrinks middle nextReads).trans (firstTakes firstReads)

/-- A step that leaves the reader as it is. -/
def Stays (step : Read α) : Prop :=
  ∀ ⦃reader after : Reader⦄ ⦃result : α⦄, step reader = some (result, after) → after = reader

theorem Stays.shrinks {step : Read α} (stays : Stays step) : Shrinks step := by
  intro reader after result reads
  rw [stays reads]

theorem Stays.bind_takes {first : Read α} {next : α → Read β} (stays : Stays first)
    (nextTakes : ∀ result, Takes (next result)) : Takes (first >>= next) := by
  intro reader after result reads
  obtain ⟨middle, between, firstReads, nextReads⟩ := bind_eq_some reads
  rw [stays firstReads] at nextReads
  exact nextTakes middle nextReads

theorem Stays.bind {first : Read α} {next : α → Read β} (stays : Stays first)
    (nextStays : ∀ result, Stays (next result)) : Stays (first >>= next) := by
  intro reader after result reads
  obtain ⟨middle, between, firstReads, nextReads⟩ := bind_eq_some reads
  rw [stays firstReads] at nextReads
  exact nextStays middle nextReads

theorem stays_pure (result : α) : Stays (pure result : Read α) := by
  rintro reader after found ⟨⟩
  rfl

theorem stays_failure : Stays (failure : Read α) := by
  rintro reader after result ⟨⟩

theorem stays_peek : Stays peek := by
  rintro ⟨_ | ⟨c, rest⟩, flags, names⟩ after result reads
  · cases reads
  · cases reads
    rfl

theorem stays_peek? : Stays peek? := by
  rintro reader after result ⟨⟩
  rfl

theorem peek_of_peek? {reader : Reader} {c : Char}
    (peeks : peek? reader = some (some c, reader)) : peek reader = some (c, reader) := by
  obtain ⟨_ | ⟨first, rest⟩, flags, names⟩ := reader
  · cases peeks
  · cases peeks
    rfl

theorem stays_flags : Stays Read.flags := by
  rintro reader after result ⟨⟩
  rfl

theorem stays_fuel : Stays fuel := by
  rintro reader after result ⟨⟩
  rfl

theorem takes_advance : Takes advance := by
  rintro reader after result ⟨⟩
  exact List.suffix_refl _

theorem withoutBlanks_suffix (inComment : Bool) (text : List Char) :
    withoutBlanks inComment text <:+ text := by
  induction text generalizing inComment with
  | nil => exact List.suffix_refl _
  | cons c rest inductionHypothesis =>
      unfold withoutBlanks
      split
      · exact (inductionHypothesis _).trans (List.suffix_cons c rest)
      split
      · exact (inductionHypothesis _).trans (List.suffix_cons c rest)
      split
      · exact (inductionHypothesis _).trans (List.suffix_cons c rest)
      · exact List.suffix_refl _

theorem skipBlanks_run (reader : Reader) : skipBlanks reader = some ((),
    if reader.flags.verbose then { reader with rest := withoutBlanks false reader.rest }
    else reader) := rfl

theorem shrinks_skipBlanks : Shrinks skipBlanks := by
  intro reader after result reads
  rw [skipBlanks_run] at reads
  cases reads
  split
  · exact withoutBlanks_suffix _ _
  · exact List.suffix_refl _

theorem takes_advanceBlanks : Takes advanceBlanks := by
  intro reader after result reads
  rw [advanceBlanks_run] at reads
  exact shrinks_skipBlanks reads

theorem accept_run (text : String) (reader : Reader) : accept text reader =
    if text.toList.isPrefixOf reader.rest then
      some (true, { reader with rest := reader.rest.drop text.length })
    else some (false, reader) := by
  unfold accept
  rw [bind_run, get_run, Option.bind_some]
  split <;> rfl

theorem shrinks_accept (text : String) : Shrinks (accept text) := by
  intro reader after result reads
  rw [accept_run] at reads
  split at reads
  · cases reads
    exact List.drop_suffix _ _
  · cases reads
    exact List.suffix_refl _

theorem accept_less {text : String} {reader after : Reader} (present : text ≠ "")
    (reads : accept text reader = some (true, after)) :
    after.rest.length < reader.rest.length := by
  rw [accept_run] at reads
  split at reads
  · rename_i isPrefix
    cases reads
    have longer := (List.isPrefixOf_iff_prefix.mp isPrefix).length_le
    have positive : 0 < text.toList.length := by
      rw [List.length_pos_iff]
      exact fun empty => present (String.toList_eq_nil_iff.mp empty)
    rw [String.length_toList] at longer positive
    rw [List.length_drop]
    omega
  · cases reads

theorem accept_false {text : String} {reader after : Reader}
    (reads : accept text reader = some (false, after)) : after = reader := by
  rw [accept_run] at reads
  split at reads
  · cases reads
  · cases reads
    rfl

theorem shrinks_acceptEither (first second : String) : Shrinks (acceptEither first second) := by
  refine (shrinks_accept first).bind fun found => ?_
  split
  · exact shrinks_pure _
  · exact shrinks_accept second

/-! ### Escapes -/

theorem stays_ofCode (code : Nat) : Stays (ofCode code) := by
  unfold ofCode
  by_cases valid : code.isValidChar
  · rw [dif_pos valid]
    exact stays_pure _
  · rw [dif_neg valid]
    exact stays_failure

theorem shrinks_fixedHex (count code : Nat) : Shrinks (fixedHex count code) := by
  induction count generalizing code with
  | zero => exact shrinks_pure _
  | succ count inductionHypothesis =>
      refine stays_peek.shrinks.bind fun c => ?_
      split
      · exact takes_advanceBlanks.shrinks.bind fun _ => inductionHypothesis _
      · exact shrinks_failure

theorem shrinks_bracedHex (fuel : Nat) (any : Bool) (code : Nat) :
    Shrinks (bracedHex fuel any code) := by
  induction fuel generalizing any code with
  | zero => exact shrinks_failure
  | succ fuel inductionHypothesis =>
      refine stays_peek.shrinks.bind fun c => ?_
      split
      · refine takes_advanceBlanks.shrinks.bind fun _ => ?_
        split
        · exact shrinks_pure _
        · exact shrinks_failure
      split
      · exact takes_advanceBlanks.shrinks.bind fun _ => inductionHypothesis _ _
      · exact shrinks_failure

theorem takes_hexLiteral (letter : Char) : Takes (hexLiteral letter) := by
  refine takes_advanceBlanks.bind fun _ => stays_peek.shrinks.bind fun c => ?_
  split
  · exact takes_advanceBlanks.shrinks.bind fun _ => stays_fuel.shrinks.bind fun _ =>
      (shrinks_bracedHex _ _ _).bind fun _ => (stays_ofCode _).shrinks.bind fun _ => shrinks_pure _
  · exact (shrinks_fixedHex _ _).bind fun _ =>
      (stays_ofCode _).shrinks.bind fun _ => shrinks_pure _

theorem shrinks_bracedName (fuel : Nat) (done : List Char) : Shrinks (bracedName fuel done) := by
  induction fuel generalizing done with
  | zero => exact shrinks_failure
  | succ fuel inductionHypothesis =>
      refine stays_peek.shrinks.bind fun c => ?_
      split
      · exact takes_advance.shrinks.bind fun _ => shrinks_pure _
      · exact takes_advanceBlanks.shrinks.bind fun _ => inductionHypothesis _

theorem stays_adjusted (negated : Bool) (set : SymbolSet) : Stays (adjusted negated set) := by
  refine stays_flags.bind fun flags => ?_
  dsimp only
  split
  · exact stays_pure _
  split
  · exact stays_pure _
  · exact stays_failure

/-- The characters of a property, if there is one of that name. -/
def propertyOf (negated : Bool) (row? : Option Property.Row) : Read SymbolSet := do
  let some row := row? | failure
  if !(← Read.flags).unicode then failure
  adjusted negated (.ranges row.members row.weight)

theorem propertySet_eq (negated : Bool) : propertySet negated = (do
    advanceBlanks
    match ← peek with
    | '\x7b' =>
        advanceBlanks
        let name ← bracedName (← Read.fuel) []
        propertyOf negated (property? name)
    | '\\' => failure
    | c =>
        advanceBlanks
        propertyOf negated (Property.named? (String.ofList [c]))) := rfl

theorem stays_propertyOf (negated : Bool) (row? : Option Property.Row) :
    Stays (propertyOf negated row?) := by
  cases row? with
  | none => exact stays_failure
  | some row =>
      refine stays_flags.bind fun flags => ?_
      dsimp only
      split
      · rw [failure_bind]
        exact stays_failure
      · exact stays_adjusted _ _

theorem takes_propertySet (negated : Bool) : Takes (propertySet negated) := by
  rw [propertySet_eq]
  refine takes_advanceBlanks.bind fun _ => stays_peek.shrinks.bind fun c => ?_
  split
  · exact takes_advanceBlanks.shrinks.bind fun _ => stays_fuel.shrinks.bind fun _ =>
      (shrinks_bracedName _ _).bind fun _ => (stays_propertyOf _ _).shrinks
  · exact shrinks_failure
  · exact takes_advanceBlanks.shrinks.bind fun _ => (stays_propertyOf _ _).shrinks

theorem shrinks_wordBoundary (fuel : Nat) (done : List Char) :
    Shrinks (wordBoundary fuel done) := by
  induction fuel generalizing done with
  | zero => exact shrinks_failure
  | succ fuel inductionHypothesis =>
      refine stays_peek.shrinks.bind fun c => ?_
      split
      · exact takes_advanceBlanks.shrinks.bind fun _ => inductionHypothesis _
      split
      · exact takes_advance.shrinks.bind fun _ => shrinks_pure _
      · exact shrinks_failure

/-- The kind of a word boundary that stands in braces. -/
def boundaryKind : Read Assertion := do
  match String.ofList (← wordBoundary (← Read.fuel) []) with
  | "start" => return .wordStart
  | "end" => return .wordEnd
  | "start-half" => return .wordStartHalf
  | "end-half" => return .wordEndHalf
  | _ => failure

/-- What may follow a word boundary and an opening brace. Unless it is a kind, all is given back. -/
def boundaryInside (given : Reader) : Read Assertion := do
  let c ← peek
  if c.isAlpha || c = '-' then boundaryKind
  else
    set given
    return .wordBoundary

theorem boundary_eq : boundary = (do
    let reader ← get
    if reader.rest.head? = some '\x7b' then
      advanceBlanks
      boundaryInside reader
    else return .wordBoundary) := rfl

theorem boundaryInside_cons (given : Reader) (c : Char) (rest : List Char) (flags : Flags)
    (names : List String) : boundaryInside given ⟨c :: rest, flags, names⟩ =
      if c.isAlpha || c = '-' then boundaryKind ⟨c :: rest, flags, names⟩
      else some (.wordBoundary, given) := by
  unfold boundaryInside
  rw [bind_run, peek_cons, Option.bind_some]
  split <;> rfl

theorem shrinks_boundaryKind : Shrinks boundaryKind := by
  refine stays_fuel.shrinks.bind fun _ => (shrinks_wordBoundary _ _).bind fun kind => ?_
  split
  any_goals exact shrinks_pure _
  exact shrinks_failure

theorem shrinks_boundary : Shrinks boundary := by
  rw [boundary_eq]
  intro reader after result reads
  obtain ⟨_, _, ⟨⟩, reads⟩ := bind_eq_some reads
  split at reads
  · obtain ⟨_, ⟨_ | ⟨c, rest⟩, flags, names⟩, opens, reads⟩ := bind_eq_some reads
    · cases reads
    rw [boundaryInside_cons] at reads
    split at reads
    · exact (shrinks_boundaryKind reads).trans (takes_advanceBlanks.shrinks opens)
    · cases reads
      exact List.suffix_refl _
  · cases reads
    exact List.suffix_refl _

theorem takes_escape : Takes escape := by
  refine takes_advance.bind fun _ => stays_peek.shrinks.bind fun c => ?_
  split
  · exact (takes_hexLiteral c).shrinks
  split
  · exact (takes_propertySet _).shrinks.bind fun _ => shrinks_pure _
  refine takes_advance.shrinks.bind fun _ => ?_
  split
  · exact shrinks_pure _
  split
  · refine stays_flags.shrinks.bind fun _ => ?_
    split
    · exact shrinks_pure _
    · exact shrinks_failure
  split
  · exact shrinks_pure _
  split
  any_goals exact shrinks_pure _
  · exact shrinks_boundary.bind fun _ => shrinks_pure _
  · exact shrinks_failure

/-! ### Sets between brackets -/

/-- The name of a set and its end, given what follows the opening of its brackets. -/
def namedSetEnd? (negated : Bool) (rest : List Char) :
    Option (Bool × List (Nat × Nat) × List Char) :=
  let name := rest.takeWhile (· != ':')
  match rest.drop name.length with
  | ':' :: ']' :: rest =>
      (namedSet? (String.ofList name)).map fun members => (negated, members, rest)
  | _ => none

theorem namedSetEnd?_suffix {negated found : Bool} {text rest : List Char}
    {members : List (Nat × Nat)} (reads : namedSetEnd? negated text = some (found, members, rest)) :
    rest <:+ text := by
  unfold namedSetEnd? at reads
  dsimp only at reads
  split at reads
  · rename_i left drops
    obtain ⟨_, _, ⟨⟩⟩ := Option.map_eq_some_iff.mp reads
    refine ((List.suffix_cons ']' rest).trans (List.suffix_cons ':' _)).trans ?_
    rw [← drops]
    exact List.drop_suffix _ _
  · cases reads

/-- Whether the name of a set is negated by a caret, and the text without it. -/
def negation : List Char → Bool × List Char
  | '^' :: rest => (true, rest)
  | rest => (false, rest)

theorem negation_cons {c : Char} (plain : c ≠ '^') (text : List Char) :
    negation (c :: text) = (false, c :: text) := by
  simp [negation, plain]

theorem namedSetAt?_opened (rest : List Char) : namedSetAt? ('[' :: ':' :: rest) =
    namedSetEnd? (negation rest).1 (negation rest).2 := rfl

theorem namedSetAt?_eq (text : List Char) : namedSetAt? text =
    if ['[', ':', '^'].isPrefixOf text then namedSetEnd? true (text.drop 3)
    else if ['[', ':'].isPrefixOf text then namedSetEnd? false (text.drop 2)
    else none := by
  cases text with
  | nil => rfl
  | cons c text =>
  by_cases bracket : c = '['
  swap
  · simp [namedSetAt?, bracket, Ne.symm bracket]
  subst bracket
  cases text with
  | nil => rfl
  | cons c text =>
  by_cases colon : c = ':'
  swap
  · simp [namedSetAt?, colon, Ne.symm colon]
  subst colon
  cases text with
  | nil => rfl
  | cons c text =>
  by_cases caret : c = '^'
  · subst caret
    rfl
  · have unmarked : ['[', ':', '^'].isPrefixOf ('[' :: ':' :: c :: text) = false := by
      simp [List.isPrefixOf, Ne.symm caret]
    have opened : ['[', ':'].isPrefixOf ('[' :: ':' :: c :: text) = true := rfl
    rw [unmarked, if_neg Bool.false_ne_true, if_pos opened, namedSetAt?_opened, negation_cons caret]
    rfl

theorem namedSetAt?_suffix {text rest : List Char} {negated : Bool} {members : List (Nat × Nat)}
    (found : namedSetAt? text = some (negated, members, rest)) : rest <:+ text.tail := by
  have dropped (count : Nat) : text.drop (count + 1) <:+ text.tail := by
    rw [← List.drop_tail]
    exact List.drop_suffix _ _
  rw [namedSetAt?_eq] at found
  split at found
  · exact (namedSetEnd?_suffix found).trans (dropped 2)
  split at found
  · exact (namedSetEnd?_suffix found).trans (dropped 1)
  · cases found

theorem stays_close (operand : Operand) : Stays operand.close := by
  unfold Operand.close
  dsimp only
  split
  · exact stays_pure _
  · exact stays_flags.bind fun _ => stays_pure _

theorem stays_literalItem (c : Char) : Stays (literalItem c) := by
  refine stays_flags.bind fun flags => ?_
  split
  · exact stays_pure _
  · exact stays_failure

theorem takes_setItem : Takes setItem := by
  refine stays_peek.bind_takes fun c => ?_
  split
  · exact takes_escape
  · exact takes_advance.bind fun _ => shrinks_pure _

/-- What is left after the first blanks and a number sign. -/
def afterSign (rest : List Char) : List Char :=
  let left := rest.dropWhile Text.isBlank
  if left.head? = some '#' then left.tail.dropWhile Text.isBlank else left

/-- The next character but one, given what follows the next one. -/
def characterAfter (verbose : Bool) (rest : List Char) : Option Char :=
  if verbose then (afterSign rest).head?.or rest.head? else rest.head?

theorem peekAfter?_eq : peekAfter? = (do
    let reader ← get
    return characterAfter reader.flags.verbose reader.rest.tail) := by
  unfold peekAfter? characterAfter afterSign
  refine congrArg (get >>= ·) (funext fun reader => ?_)
  cases reader.flags.verbose with
  | false => rfl
  | true =>
      simp only [Bool.not_true, Bool.false_eq_true, ↓reduceIte]
      split
      · rename_i following sign
        rw [sign, List.head?_cons, if_pos rfl, List.tail_cons]
        cases following.dropWhile Text.isBlank <;> rfl
      · rename_i c left other sign
        rw [sign, List.head?_cons, if_neg fun same => other (Option.some.inj same)]
        rfl
      · rename_i nothing
        rw [nothing]
        rfl

theorem peekAfter?_run (reader : Reader) :
    peekAfter? reader = some (characterAfter reader.flags.verbose reader.rest.tail, reader) := by
  rw [peekAfter?_eq]
  rfl

theorem stays_peekAfter? : Stays peekAfter? := by
  intro reader after result reads
  rw [peekAfter?_run] at reads
  cases reads
  rfl

/-- A range from its ends. -/
def rangeOf (first last : Primitive) : Read SymbolSet := do
  match first, last with
  | .literal low _, .literal high _ =>
      let low ← literalItem low
      let high ← literalItem high
      if low ≤ high then return .range low high else failure
  | _, _ => failure

/-- What follows the first end of a range, or a set, between brackets. -/
def rangeAfter (first : Primitive) : Read SymbolSet := do
  let c ← peek
  let after ← peekAfter?
  if c != '-' || after == some ']' || after == some '-' then
    match first with
    | .literal c _ => return .single (← literalItem c)
    | .set set => return set
    | _ => failure
  else
    advanceBlanks
    let _ ← peek
    let last ← setItem
    rangeOf first last

theorem setRange_eq : setRange = (do
    let first ← setItem
    skipBlanks
    rangeAfter first) := rfl

theorem stays_rangeOf (first last : Primitive) : Stays (rangeOf first last) := by
  unfold rangeOf
  split
  · refine (stays_literalItem _).bind fun low => (stays_literalItem _).bind fun high => ?_
    split
    · exact stays_pure _
    · exact stays_failure
  · exact stays_failure

theorem shrinks_rangeAfter (first : Primitive) : Shrinks (rangeAfter first) := by
  refine stays_peek.shrinks.bind fun c => stays_peekAfter?.shrinks.bind fun after => ?_
  split
  · split
    · exact (stays_literalItem _).shrinks.bind fun _ => shrinks_pure _
    · exact shrinks_pure _
    · exact shrinks_failure
  · exact takes_advanceBlanks.shrinks.bind fun _ => stays_peek.shrinks.bind fun _ =>
      takes_setItem.shrinks.bind fun last => (stays_rangeOf first last).shrinks

theorem takes_setRange : Takes setRange :=
  takes_setItem.bind fun first => shrinks_skipBlanks.bind fun _ => shrinks_rangeAfter first

theorem shrinks_leadingHyphens (fuel : Nat) (items : List SymbolSet) :
    Shrinks (leadingHyphens fuel items) := by
  induction fuel generalizing items with
  | zero => exact shrinks_pure _
  | succ fuel inductionHypothesis =>
      refine stays_peek.shrinks.bind fun c => ?_
      split
      · exact takes_advanceBlanks.shrinks.bind fun _ => inductionHypothesis _
      · exact shrinks_pure _

/-- What follows the first items between brackets. -/
def bracketItems (further : Operand → Read SymbolSet) (negated : Bool) (first : List SymbolSet) :
    Read SymbolSet := do
  let set ← further ⟨none, first⟩
  return .bracketed (← adjusted negated set)

/-- What follows the hyphens at the start of a set. A bracket there stands for itself. -/
def bracketTail (further : Operand → Read SymbolSet) (negated : Bool)
    (hyphens : List SymbolSet) : Read SymbolSet := do
  if (← peek) = ']' && hyphens.isEmpty then
    advanceBlanks
    let _ ← peek
    bracketItems further negated [.single ']']
  else bracketItems further negated hyphens

/-- What follows the opening bracket and the caret that may stand behind it. -/
def bracketBody (further : Operand → Read SymbolSet) (negated : Bool) : Read SymbolSet := do
  let hyphens ← leadingHyphens (← Read.fuel) []
  bracketTail further negated hyphens

theorem bracketed_succ (depth : Nat) : bracketed (depth + 1) = (do
    advanceBlanks
    let c ← peek
    if c = '^' then
      advanceBlanks
      bracketBody (setItems · depth) (c = '^')
    else bracketBody (setItems · depth) (c = '^')) := rfl

section

variable (further : Operand → Read SymbolSet) (operand : Operand)

/-- The next set added to an operand, and what follows it. -/
def addedSet (readSet : Read SymbolSet) : Read SymbolSet := do
  let set ← readSet
  further { operand with items := set :: operand.items }

/-- A set within a set, by its name or between brackets, and what follows it. -/
def nestedSet (readBracketed : Read SymbolSet) : Read SymbolSet := do
  match namedSetAt? (← get).rest with
  | some (negated, members, rest) =>
      modify fun reader => { reader with rest }
      addedSet further operand
        (adjusted negated (.ranges members (SymbolSet.stateWeight * 2 + 16)))
  | none => addedSet further operand readBracketed

/-- An operation or a range, and what follows it. -/
def joinedSet : Read SymbolSet := do
  if ← accept "&&" then
    further ⟨some (.intersection, ← operand.close), []⟩
  else if ← accept "--" then
    further ⟨some (.difference, ← operand.close), []⟩
  else if ← accept "~~" then
    further ⟨some (.symmetricDifference, ← operand.close), []⟩
  else addedSet further operand setRange

end

theorem setItems_succ (operand : Operand) (depth : Nat) : setItems operand (depth + 1) = (do
    skipBlanks
    let c ← peek
    if c = '[' then nestedSet (setItems · depth) operand (bracketed depth)
    else if c = ']' then
      advance
      operand.close
    else joinedSet (setItems · depth) operand) := rfl

theorem nestedSet_named {reader : Reader} {negated : Bool} {members : List (Nat × Nat)}
    {rest : List Char} (named : namedSetAt? reader.rest = some (negated, members, rest))
    (further : Operand → Read SymbolSet) (operand : Operand) (readBracketed : Read SymbolSet) :
    nestedSet further operand readBracketed reader = addedSet further operand
      (adjusted negated (.ranges members (SymbolSet.stateWeight * 2 + 16)))
      { reader with rest } := by
  unfold nestedSet
  rw [bind_run, get_run, Option.bind_some, named]
  rfl

theorem nestedSet_bracketed {reader : Reader} (unnamed : namedSetAt? reader.rest = none)
    (further : Operand → Read SymbolSet) (operand : Operand) (readBracketed : Read SymbolSet) :
    nestedSet further operand readBracketed reader =
      addedSet further operand readBracketed reader := by
  unfold nestedSet
  rw [bind_run, get_run, Option.bind_some, unnamed]

section

variable {further : Operand → Read SymbolSet}
  (furtherShrinks : ∀ operand, Shrinks (further operand))

include furtherShrinks

theorem shrinks_bracketItems (negated : Bool) (first : List SymbolSet) :
    Shrinks (bracketItems further negated first) :=
  (furtherShrinks _).bind fun _ => (stays_adjusted _ _).shrinks.bind fun _ => shrinks_pure _

theorem shrinks_bracketTail (negated : Bool) (hyphens : List SymbolSet) :
    Shrinks (bracketTail further negated hyphens) := by
  refine stays_peek.shrinks.bind fun c => ?_
  split
  · exact takes_advanceBlanks.shrinks.bind fun _ => stays_peek.shrinks.bind fun _ =>
      shrinks_bracketItems furtherShrinks negated _
  · exact shrinks_bracketItems furtherShrinks negated _

theorem shrinks_bracketBody (negated : Bool) : Shrinks (bracketBody further negated) :=
  stays_fuel.shrinks.bind fun _ => (shrinks_leadingHyphens _ _).bind fun hyphens =>
    shrinks_bracketTail furtherShrinks negated hyphens

variable (operand : Operand)

theorem shrinks_addedSet {readSet : Read SymbolSet} (setShrinks : Shrinks readSet) :
    Shrinks (addedSet further operand readSet) :=
  setShrinks.bind fun _ => furtherShrinks _

theorem shrinks_nestedSet {readBracketed : Read SymbolSet}
    (bracketedShrinks : Shrinks readBracketed) :
    Shrinks (nestedSet further operand readBracketed) := by
  intro reader after result reads
  cases named : namedSetAt? reader.rest with
  | some found =>
      rw [nestedSet_named named] at reads
      have behind := shrinks_addedSet furtherShrinks operand (stays_adjusted _ _).shrinks reads
      exact (behind.trans (namedSetAt?_suffix named)).trans (List.tail_suffix _)
  | none =>
      rw [nestedSet_bracketed named] at reads
      exact shrinks_addedSet furtherShrinks operand bracketedShrinks reads

theorem shrinks_joinedSet : Shrinks (joinedSet further operand) := by
  have closes := (stays_close operand).shrinks
  refine (shrinks_accept _).bind fun intersects => ?_
  split
  · exact closes.bind fun _ => furtherShrinks _
  refine (shrinks_accept _).bind fun subtracts => ?_
  split
  · exact closes.bind fun _ => furtherShrinks _
  refine (shrinks_accept _).bind fun differs => ?_
  split
  · exact closes.bind fun _ => furtherShrinks _
  · exact shrinks_addedSet furtherShrinks operand takes_setRange.shrinks

end

theorem bracketed_setItems_shrinks (depth : Nat) :
    Takes (bracketed depth) ∧ ∀ operand, Shrinks (setItems operand depth) := by
  induction depth with
  | zero => exact ⟨takes_failure, fun _ => shrinks_failure⟩
  | succ depth inductionHypothesis =>
      obtain ⟨bracketedTakes, itemsShrink⟩ := inductionHypothesis
      refine ⟨?_, fun operand => ?_⟩
      · rw [bracketed_succ]
        refine takes_advanceBlanks.bind fun _ => stays_peek.shrinks.bind fun c => ?_
        split
        · exact takes_advanceBlanks.shrinks.bind fun _ => shrinks_bracketBody itemsShrink _
        · exact shrinks_bracketBody itemsShrink _
      · rw [setItems_succ]
        refine shrinks_skipBlanks.bind fun _ => stays_peek.shrinks.bind fun c => ?_
        split
        · exact shrinks_nestedSet itemsShrink operand bracketedTakes.shrinks
        split
        · exact takes_advance.shrinks.bind fun _ => (stays_close operand).shrinks
        · exact shrinks_joinedSet itemsShrink operand

/-! ### Groups and repetitions -/

theorem shrinks_flagItems (fuel : Nat) (seen : List Char) (flags : Flags) :
    Shrinks (flagItems fuel seen flags) := by
  induction fuel generalizing seen flags with
  | zero => exact shrinks_failure
  | succ fuel inductionHypothesis =>
      refine stays_peek.shrinks.bind fun c => ?_
      split
      · split
        · exact shrinks_failure
        · exact shrinks_pure _
      split
      · exact shrinks_failure
      split
      · exact takes_advance.shrinks.bind fun _ => inductionHypothesis _ _
      split
      · exact takes_advance.shrinks.bind fun _ => inductionHypothesis _ _
      · exact shrinks_failure

theorem shrinks_groupName (fuel : Nat) (done : List Char) : Shrinks (groupName fuel done) := by
  induction fuel generalizing done with
  | zero => exact shrinks_failure
  | succ fuel inductionHypothesis =>
      have further (c : Char) (allowed : Bool) : Shrinks (if allowed then do
          advance
          groupName fuel (c :: done)
        else failure) := by
        split
        · exact takes_advance.shrinks.bind fun _ => inductionHypothesis _
        · exact shrinks_failure
      refine stays_peek.shrinks.bind fun c => ?_
      dsimp only
      split
      · refine takes_advance.shrinks.bind fun _ => ?_
        split
        · exact shrinks_failure
        · exact shrinks_pure _
      · exact further c _

theorem Shrinks.forIn {items : List σ} {body : σ → PUnit → Read (ForInStep PUnit)}
    (bodyShrinks : ∀ item, Shrinks (body item ⟨⟩)) :
    Shrinks (forIn items PUnit.unit body) := by
  induction items with
  | nil => exact shrinks_pure _
  | cons item items inductionHypothesis =>
      rw [List.forIn_cons]
      refine (bodyShrinks item).bind fun next => ?_
      split
      · exact shrinks_pure _
      · exact inductionHypothesis

theorem takes_groupHead : Takes groupHead := by
  refine takes_advanceBlanks.bind fun _ => stays_flags.shrinks.bind fun before =>
    (Shrinks.forIn fun lookAround => ?_).bind fun _ =>
    (shrinks_acceptEither _ _).bind fun named => ?_
  · refine (shrinks_accept _).bind fun found => ?_
    split
    · exact shrinks_failure.bind fun _ => shrinks_pure _
    · exact shrinks_pure _
  split
  · refine stays_fuel.shrinks.bind fun _ => (shrinks_groupName _ _).bind fun name => ?_
    intro reader after head reads
    obtain ⟨_, _, ⟨⟩, reads⟩ := bind_eq_some reads
    dsimp only at reads
    split at reads
    · cases reads
    · cases reads
      exact List.suffix_refl _
  refine (shrinks_accept _).bind fun flagged => ?_
  split
  · refine stays_fuel.shrinks.bind fun _ => (shrinks_flagItems _ _ _).bind fun items =>
      stays_peek.shrinks.bind fun c => takes_advance.shrinks.bind fun _ => ?_
    split
    · exact shrinks_pure _
    split
    · exact shrinks_failure
    · exact shrinks_pure _
  · exact shrinks_pure _

theorem shrinks_countDigits (fuel : Nat) (done : List Char) : Shrinks (countDigits fuel done) := by
  induction fuel generalizing done with
  | zero => exact shrinks_pure _
  | succ fuel inductionHypothesis =>
      refine stays_peek?.shrinks.bind fun next => ?_
      split
      · split
        · exact takes_advanceBlanks.shrinks.bind fun _ => inductionHypothesis _
        · exact shrinks_pure _
      · exact shrinks_pure _

theorem shrinks_skipAllBlanks : Shrinks skipAllBlanks := by
  rintro reader after result ⟨⟩
  exact List.dropWhile_suffix _

theorem shrinks_count : Shrinks count := by
  refine shrinks_skipAllBlanks.bind fun _ => stays_fuel.shrinks.bind fun _ =>
    (shrinks_countDigits _ _).bind fun digits => shrinks_skipAllBlanks.bind fun _ =>
    shrinks_skipBlanks.bind fun _ => ?_
  dsimp only
  split
  · exact shrinks_failure
  · exact shrinks_pure _

theorem shrinks_skipLazy : Shrinks skipLazy := by
  refine stays_peek?.shrinks.bind fun next => ?_
  split
  · exact takes_advance.shrinks
  · exact shrinks_pure _

/-- The end of a repetition counted in braces. -/
def timesEnd (least : Nat) (most : Option Nat) : Read (Nat × Option Nat) := do
  if (← peek) != '\x7d' then failure
  advanceBlanks
  skipLazy
  if most.any (· < least) then failure
  return (least, most)

theorem countedTimes_eq : countedTimes = (do
    advanceBlanks
    let least ← count
    if (← peek) = ',' then
      advanceBlanks
      if (← peek) = '\x7d' then timesEnd least none
      else
        let most ← count
        timesEnd least (some most)
    else timesEnd least (some least)) := rfl

theorem shrinks_timesEnd (least : Nat) (most : Option Nat) : Shrinks (timesEnd least most) := by
  refine stays_peek.shrinks.bind fun c => ?_
  dsimp only
  split
  · rw [failure_bind]
    exact shrinks_failure
  refine takes_advanceBlanks.shrinks.bind fun _ => shrinks_skipLazy.bind fun _ => ?_
  split
  · rw [failure_bind]
    exact shrinks_failure
  · exact shrinks_pure _

theorem takes_countedTimes : Takes countedTimes := by
  rw [countedTimes_eq]
  refine takes_advanceBlanks.bind fun _ => shrinks_count.bind fun least =>
    stays_peek.shrinks.bind fun c => ?_
  split
  · refine takes_advanceBlanks.shrinks.bind fun _ => stays_peek.shrinks.bind fun c => ?_
    split
    · exact shrinks_timesEnd _ _
    · exact shrinks_count.bind fun most => shrinks_timesEnd _ _
  · exact shrinks_timesEnd _ _

theorem stays_literal (c : Char) (byTwoDigits : Bool) : Stays (literal c byTwoDigits) := by
  refine stays_flags.bind fun flags => ?_
  dsimp only
  split
  · exact stays_failure.bind fun _ => stays_pure _
  · exact stays_pure _

theorem stays_anyChar : Stays anyChar := by
  refine stays_flags.bind fun flags => ?_
  dsimp only
  split
  · exact stays_failure.bind fun _ => stays_pure _
  · exact stays_pure _

/-- The expression for what follows a backslash. -/
def escaped : Primitive → Read Expression
  | .literal c byTwoDigits => literal c byTwoDigits
  | .anyChar => anyChar
  | .set set => return .symbol set
  | .assertion condition => return .assertion condition

theorem stays_escaped (item : Primitive) : Stays (escaped item) := by
  cases item with
  | literal c byTwoDigits => exact stays_literal c byTwoDigits
  | anyChar => exact stays_anyChar
  | set set => exact stays_pure _
  | assertion condition => exact stays_pure _

theorem primitive_eq : primitive = (do
    let flags ← Read.flags
    match ← peek with
    | '\\' => escape >>= escaped
    | '.' =>
        advance
        anyChar
    | '^' =>
        advance
        return .assertion (if flags.multiLine then .lineStart flags.returns else .textStart)
    | '$' =>
        advance
        return .assertion (if flags.multiLine then .lineEnd flags.returns else .textEnd)
    | c =>
        advance
        literal c false) := rfl

theorem takes_primitive : Takes primitive := by
  rw [primitive_eq]
  refine stays_flags.bind_takes fun flags => stays_peek.bind_takes fun c => ?_
  split
  · exact takes_escape.bind fun item => (stays_escaped item).shrinks
  · exact takes_advance.bind fun _ => stays_anyChar.shrinks
  · exact takes_advance.bind fun _ => shrinks_pure _
  · exact takes_advance.bind fun _ => shrinks_pure _
  · exact takes_advance.bind fun _ => (stays_literal _ _).shrinks

/-! ### Alternatives -/

section

variable (further : List Expression → List Expression → Read Expression)
  (items branches : List Expression)

/-- The last item repeated, and what follows it. -/
def repeatedItem (least : Nat) (most : Option Nat) : Read Expression := do
  further (← repeatLast least most items) branches

/-- The last item repeated by a sign of one character, and what follows it. -/
def repeatedBySign (least : Nat) (most : Option Nat) : Read Expression := do
  advance
  skipLazy
  repeatedItem further items branches least most

/-- What follows the head of a group, given the flags before the group. -/
def afterHead (before : Flags) : GroupHead → Read Expression
  | .setting flags => do
      modify fun reader => { reader with flags }
      further (.setting :: items) branches
  | .opening captures flags => do
      modify fun reader => { reader with flags }
      let body ← further [] []
      if (← peek?) != some ')' then failure
      modify fun reader => { reader with flags := before }
      advance
      further (.group captures body :: items) branches

/-- The next item and what follows it, or the end of the alternatives. -/
def nextItem : Option Char → Read Expression
  | none => return choiceOf ((sequenceOf items.reverse :: branches).reverse)
  | some ')' => return choiceOf ((sequenceOf items.reverse :: branches).reverse)
  | some '(' => do
      let before ← Read.flags
      afterHead further items branches before (← groupHead)
  | some '|' => do
      advance
      further [] (sequenceOf items.reverse :: branches)
  | some '[' => do
      let set ← bracketed (2 * (← Read.fuel))
      further (.symbol set :: items) branches
  | some '?' => repeatedBySign further items branches 0 (some 1)
  | some '*' => repeatedBySign further items branches 0 none
  | some '+' => repeatedBySign further items branches 1 none
  | some '\x7b' => do
      let (least, most) ← countedTimes
      repeatedItem further items branches least most
  | some _ => do
      let item ← primitive
      further (item :: items) branches

end

/-- One turn of reading alternatives; what follows the next item is left to the turns after it. -/
theorem alternatives_succ (items branches : List Expression) (fuel : Nat) :
    alternatives items branches (fuel + 1) = (do
      skipBlanks
      nextItem (alternatives · · fuel) items branches (← peek?)) := rfl

theorem stays_repeatLast (least : Nat) (most : Option Nat) (items : List Expression) :
    Stays (repeatLast least most items) := by
  unfold repeatLast
  split
  · exact stays_failure
  · exact stays_failure
  · exact stays_pure _

theorem shrinks_setFlags (flags : Flags) :
    Shrinks (modify fun reader => { reader with flags } : Read Unit) := by
  rintro reader after result ⟨⟩
  exact List.suffix_refl _

section

variable {further : List Expression → List Expression → Read Expression}
  (furtherShrinks : ∀ items branches, Shrinks (further items branches))
  (items branches : List Expression)

include furtherShrinks

theorem shrinks_repeatedItem (least : Nat) (most : Option Nat) :
    Shrinks (repeatedItem further items branches least most) :=
  (stays_repeatLast _ _ _).shrinks.bind fun _ => furtherShrinks _ _

theorem shrinks_repeatedBySign (least : Nat) (most : Option Nat) :
    Shrinks (repeatedBySign further items branches least most) :=
  takes_advance.shrinks.bind fun _ => shrinks_skipLazy.bind fun _ =>
    shrinks_repeatedItem furtherShrinks items branches least most

theorem shrinks_afterHead (before : Flags) (head : GroupHead) :
    Shrinks (afterHead further items branches before head) := by
  cases head with
  | setting flags => exact (shrinks_setFlags flags).bind fun _ => furtherShrinks _ _
  | opening captures flags =>
      refine (shrinks_setFlags flags).bind fun _ => (furtherShrinks _ _).bind fun body =>
        stays_peek?.shrinks.bind fun next => ?_
      dsimp only
      split
      · rw [failure_bind]
        exact shrinks_failure
      · exact (shrinks_setFlags before).bind fun _ => takes_advance.shrinks.bind fun _ =>
          furtherShrinks _ _

theorem shrinks_nextItem (next : Option Char) :
    Shrinks (nextItem further items branches next) := by
  have bySign := shrinks_repeatedBySign furtherShrinks items branches
  unfold nextItem
  split
  · exact shrinks_pure _
  · exact shrinks_pure _
  · exact stays_flags.shrinks.bind fun before => takes_groupHead.shrinks.bind fun head =>
      shrinks_afterHead furtherShrinks items branches before head
  · exact takes_advance.shrinks.bind fun _ => furtherShrinks _ _
  · exact stays_fuel.shrinks.bind fun _ => (bracketed_setItems_shrinks _).1.shrinks.bind
      fun _ => furtherShrinks _ _
  · exact bySign _ _
  · exact bySign _ _
  · exact bySign _ _
  · exact takes_countedTimes.shrinks.bind fun _ =>
      shrinks_repeatedItem furtherShrinks items branches _ _
  · exact takes_primitive.shrinks.bind fun _ => furtherShrinks _ _

end

theorem shrinks_alternatives (items branches : List Expression) (fuel : Nat) :
    Shrinks (alternatives items branches fuel) := by
  induction fuel generalizing items branches with
  | zero => exact shrinks_failure
  | succ fuel inductionHypothesis =>
      rw [alternatives_succ]
      exact shrinks_skipBlanks.bind fun _ => stays_peek?.shrinks.bind fun next =>
        shrinks_nextItem inductionHypothesis items branches next

end BotConfig.Pattern.Read
