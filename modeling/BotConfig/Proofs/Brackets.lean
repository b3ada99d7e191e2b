import Mathlib.Data.List.TakeWhile
import BotConfig.Proofs.Closing

/-!
Escapes and sets in front of a closing parenthesis.

An escape that the text breaks off may take the parenthesis for its character.  A set never does:
without its closing bracket it is not read.
-/

namespace BotConfig.Pattern.Read

variable {α : Type}

/-! ### Escapes -/

theorem ahead_fixedHex (count code : Nat) (text : List Char) :
    Ahead Never (fixedHex count code) text := by
  induction count generalizing code text with
  | zero => exact Ahead.pure _ _ _
  | succ count inductionHypothesis =>
      refine Ahead.peek (fun c rest _ => ?_) fun more flags names _ => ends_none _
      split
      · exact Ahead.advanceBlanks fun rest => inductionHypothesis _ rest
      · exact Ahead.failure _ _

theorem ahead_bracedHex (fuel : Nat) (any : Bool) (code : Nat) (text : List Char) :
    Ahead Never (bracedHex fuel any code) text := by
  induction fuel generalizing any code text with
  | zero => exact Ahead.failure _ _
  | succ fuel inductionHypothesis =>
      refine Ahead.peek (fun c rest _ => ?_) fun more flags names _ => ends_none _
      split
      · refine Ahead.advanceBlanks fun rest => ?_
        split
        · exact Ahead.pure _ _ _
        · exact Ahead.failure _ _
      split
      · exact Ahead.advanceBlanks fun rest => inductionHypothesis _ _ rest
      · exact Ahead.failure _ _

theorem ahead_ofCode (code : Nat) (text : List Char) : Ahead Never (ofCode code) text := by
  unfold ofCode
  by_cases valid : code.isValidChar
  · rw [dif_pos valid]
    exact Ahead.pure _ _ _
  · rw [dif_neg valid]
    exact Ahead.failure _ _

theorem ahead_hexLiteral (letter c : Char) (rest : List Char) :
    Ahead Never (hexLiteral letter) (c :: rest) := by
  refine Ahead.advanceBlanks fun rest => Ahead.peek (fun c rest _ => ?_)
    fun more flags names _ => ?_
  · split
    · refine Ahead.advanceBlanks fun rest => ?_
      refine Ahead.fuel ((steady_bracedHex _ _).bind _) fun fuel => ?_
      refine (ahead_bracedHex _ _ _ rest).bind_never fun code rest => ?_
      exact (ahead_ofCode _ rest).bind_never fun _ rest => Ahead.pure _ _ _
    · refine (ahead_fixedHex _ _ _).bind_never fun code rest => ?_
      exact (ahead_ofCode _ rest).bind_never fun _ rest => Ahead.pure _ _ _
  · -- A closing parenthesis is no hexadecimal digit.
    rw [if_neg (by decide)]
    split
    · exact ends_none _
    split
    · exact ends_none _
    · exact ends_none _

theorem bracedName_outer (fuel : Nat) (done : List Char) {reader : Reader}
    (outer : Outer reader.rest) : bracedName fuel done reader = none := by
  induction fuel generalizing done reader with
  | zero => rfl
  | succ fuel inductionHypothesis =>
      obtain ⟨_ | ⟨c, rest⟩, flags, names⟩ := reader
      · rfl
      unfold bracedName
      rw [bind_run, peek_cons, Option.bind_some]
      rw [if_neg (outer.ne (List.mem_cons_self ..) (by decide) (by decide))]
      exact bind_eq_none fun _ _ moves =>
        inductionHypothesis _ (outer.suffix (takes_advanceBlanks.shrinks moves))

theorem ahead_bracedName (fuel : Nat) (done : List Char) (text : List Char) :
    Ahead Never (bracedName fuel done) text := by
  induction fuel generalizing done text with
  | zero => exact Ahead.failure _ _
  | succ fuel inductionHypothesis =>
      refine Ahead.peek (fun c rest _ => ?_) fun more flags names spent => ?_
      · split
        · exact Ahead.advance (Ahead.pure _ _ _)
        · exact Ahead.advanceBlanks fun rest => inductionHypothesis _ rest
      · rw [if_neg (by decide)]
        exact ends_of_none (bind_eq_none fun _ _ moves =>
          bracedName_outer _ _ (spent.closing.suffix (takes_advanceBlanks.shrinks moves)))

theorem ahead_adjusted (negated : Bool) (set : SymbolSet) (text : List Char) :
    Ahead Never (adjusted negated set) text := by
  refine Ahead.flags fun flags => ?_
  dsimp only
  split
  · exact Ahead.pure _ _ _
  split
  · exact Ahead.pure _ _ _
  · exact Ahead.failure _ _

theorem ahead_propertyOf (negated : Bool) (row? : Option Property.Row) (text : List Char) :
    Ahead Never (propertyOf negated row?) text := by
  cases row? with
  | none => exact Ahead.failure _ _
  | some row =>
      refine Ahead.flags fun flags => ?_
      dsimp only
      split
      · rw [failure_bind]
        exact Ahead.failure _ _
      · exact ahead_adjusted _ _ _

theorem ahead_propertySet (negated : Bool) (c : Char) (rest : List Char) :
    Ahead Never (propertySet negated) (c :: rest) := by
  rw [propertySet_eq]
  refine Ahead.advanceBlanks fun rest => Ahead.peek (fun c rest _ => ?_)
    fun more flags names _ => ?_
  · split
    · refine Ahead.advanceBlanks fun rest => ?_
      refine Ahead.fuel ((steady_bracedName _).bind _) fun fuel => ?_
      exact (ahead_bracedName _ _ rest).bind_never fun name rest => ahead_propertyOf _ _ rest
    · exact Ahead.failure _ _
    · exact Ahead.advanceBlanks fun rest => ahead_propertyOf _ _ rest
  · have unnamed : Property.named? (String.ofList [')']) = none := by decide +kernel
    refine ends_of_none (bind_eq_none fun _ after _ => ?_)
    rw [unnamed]
    rfl

theorem ahead_wordBoundary (fuel : Nat) (done : List Char) (text : List Char) :
    Ahead Never (wordBoundary fuel done) text := by
  induction fuel generalizing done text with
  | zero => exact Ahead.failure _ _
  | succ fuel inductionHypothesis =>
      refine Ahead.peek (fun c rest _ => ?_) fun more flags names _ => ends_none _
      split
      · exact Ahead.advanceBlanks fun rest => inductionHypothesis _ rest
      split
      · exact Ahead.advance (Ahead.pure _ _ _)
      · exact Ahead.failure _ _

theorem ahead_boundaryKind (text : List Char) : Ahead Never boundaryKind text := by
  refine Ahead.fuel ((steady_wordBoundary _).bind _) fun fuel => ?_
  refine (ahead_wordBoundary _ _ _).bind_never fun kind rest => ?_
  split
  any_goals exact Ahead.pure _ _ _
  exact Ahead.failure _ _

/-- A brace that opens no count. -/
def Doomed (reader : Reader) : Prop :=
  reader.rest.head? = some '\x7b' ∧ countedTimes reader = none

theorem countDigits_outer (fuel : Nat) (done : List Char) {reader : Reader}
    (outer : Outer reader.rest) : countDigits fuel done reader = some (done.reverse, reader) := by
  cases fuel with
  | zero => rfl
  | succ fuel =>
      obtain ⟨_ | ⟨c, rest⟩, flags, names⟩ := reader
      · rfl
      · unfold countDigits
        rcases outer c (List.mem_cons_self ..) with rfl | rfl <;> rfl

theorem count_outer {reader : Reader} (outer : Outer reader.rest) : count reader = none := by
  refine bind_eq_none fun _ between skips => bind_eq_none fun fuel _ measures => ?_
  cases measures
  rw [bind_run, countDigits_outer _ _ (outer.suffix (shrinks_skipAllBlanks skips))]
  exact bind_eq_none fun _ _ _ => bind_eq_none fun _ _ _ => rfl

/-- Braces behind a word boundary that hold nothing give no count. -/
theorem countedTimes_outer {reader between : Reader}
    (moves : advanceBlanks reader = some ((), between)) (outer : Outer between.rest) :
    countedTimes reader = none := by
  rw [countedTimes_eq, bind_run, moves, Option.bind_some, bind_run, count_outer outer]
  rfl

/-- What was read behind the brace of a word boundary is given back in both. -/
theorem boundaryInside_keeps {lost : Assertion → Reader → Prop} (rest : List Char) (flags : Flags)
    (names : List String) (c : Char) {left : List Char} {left' : List Char → List Char}
    {flags' : Flags} {names' : List String}
    (kindKeeps : Keeps Never (boundaryKind ⟨c :: left, flags', names'⟩)
      fun more => boundaryKind ⟨c :: left' more, flags', names'⟩) :
    Keeps lost (boundaryInside ⟨'\x7b' :: rest, flags, names⟩ ⟨c :: left, flags', names'⟩)
      fun more => boundaryInside ⟨'\x7b' :: (rest ++ ')' :: more), flags, names⟩
        ⟨c :: left' more, flags', names'⟩ := by
  by_cases kind : c.isAlpha || c = '-'
  · refine (kindKeeps.weaken fun _ _ => False.elim).congr ?_ fun more _ => ?_
    all_goals rw [boundaryInside_cons, if_pos kind]
  · refine .same .wordBoundary ⟨'\x7b' :: rest, flags, names⟩ ?_ fun more _ => ?_
    · rw [boundaryInside_cons, if_neg kind]
    · rw [boundaryInside_cons, if_neg kind]
      rfl

theorem ahead_boundary (text : List Char) :
    Ahead (fun condition after => condition = .wordBoundary ∧ Doomed after) boundary text := by
  intro flags names
  rw [boundary_eq]
  obtain _ | ⟨c, rest⟩ := text
  · exact .same _ _ rfl fun _ _ => rfl
  by_cases brace : c = '\x7b'
  swap
  · refine .same .wordBoundary ⟨c :: rest, flags, names⟩ ?_ fun more _ => ?_
    all_goals
      rw [bind_run, get_run, Option.bind_some, if_neg (by simpa using brace)]
      rfl
  subst brace
  have run (text : List Char) : (do
      let reader ← get
      if reader.rest.head? = some '\x7b' then
        advanceBlanks
        boundaryInside reader
      else return .wordBoundary : Read Assertion) ⟨'\x7b' :: text, flags, names⟩ =
      (skipBlanks ⟨text, flags, names⟩).bind fun found =>
        boundaryInside ⟨'\x7b' :: text, flags, names⟩ found.2 := rfl
  simp only [List.cons_append, run]
  cases ahead_skipBlanks rest flags names with
  | same _ after alone left =>
      rw [alone]
      obtain ⟨_ | ⟨c, rest'⟩, flags', names'⟩ := after
      · -- The closing parenthesis is no kind, and no count either.
        refine .lost rfl fun more spent => ?_
        rw [left more spent]
        exact ends_some ⟨rfl, rfl, countedTimes_outer (left more spent) spent.closing⟩
      · refine (boundaryInside_keeps rest flags names c
          (ahead_boundaryKind (c :: rest') flags' names')).congr rfl fun more spent => ?_
        rw [left more spent]
        rfl
  | swallowed _ after alone gone =>
      rw [alone]
      obtain ⟨_ | ⟨c, rest'⟩, flags', names'⟩ := after
      · refine .lost rfl fun more spent => ?_
        rw [gone more spent]
        exact ends_none _
      · refine (boundaryInside_keeps rest flags names c
          (Keeps.of_equal _ (boundaryKind ⟨c :: rest', flags', names'⟩))).congr rfl
          fun more spent => ?_
        rw [gone more spent]
        rfl
  | lost alone _ => cases alone

/-- A character taken from behind the pattern, or a word boundary before a brace that opens no
count. -/
def Overrun (item : Primitive) (after : Reader) : Prop :=
  Spent after.rest ∨ item = .assertion .wordBoundary ∧ Doomed after

theorem ahead_escape (c : Char) (rest : List Char) : Ahead Overrun escape (c :: rest) := by
  refine Ahead.advance (Ahead.peek (fun c rest _ => ?_) fun more flags names spent => ?_)
  · split
    · exact (ahead_hexLiteral c c rest).of_never _
    split
    · exact (ahead_propertySet _ c rest).bind_never fun _ rest => Ahead.pure _ _ _
    refine Ahead.advance ?_
    split
    · exact Ahead.pure _ _ _
    split
    · refine Ahead.flags fun flags => ?_
      split
      · exact Ahead.pure _ _ _
      · exact Ahead.failure _ _
    split
    · exact Ahead.pure _ _ _
    split
    any_goals exact Ahead.pure _ _ _
    · refine (ahead_boundary rest).bind (fun _ rest => Ahead.pure _ _ _) ?_
      rintro condition after ⟨rfl, doomed⟩
      exact ends_some (.inr ⟨rfl, doomed⟩)
    · exact Ahead.failure _ _
  · exact ends_some (.inl spent)

/-! ### Sets between brackets -/

theorem ahead_close (operand : Operand) (text : List Char) : Ahead Never operand.close text := by
  unfold Operand.close
  dsimp only
  split
  · exact Ahead.pure _ _ _
  · exact Ahead.flags fun _ => Ahead.pure _ _ _

theorem ahead_literalItem (c : Char) (text : List Char) : Ahead Never (literalItem c) text := by
  refine Ahead.flags fun flags => ?_
  split
  · exact Ahead.pure _ _ _
  · exact Ahead.failure _ _

theorem ahead_setItem (text : List Char) : Ahead Overrun setItem text := by
  refine Ahead.peek (fun c rest _ => ?_) fun more flags names spent => ends_some (.inl spent)
  split
  · exact ahead_escape c rest
  · exact Ahead.advance (Ahead.pure _ _ _)

/-- Whether a character ends a set, or is the hyphen that starts a difference. -/
def endsRange (c : Option Char) : Bool := c == some ']' || c == some '-'

theorem endsRange_head {text : List Char} (passed : afterSign text = []) :
    endsRange text.head? = false := by
  cases text with
  | nil => rfl
  | cons c text =>
      by_cases blank : Text.isBlank c
      · have bracket : c ≠ ']' := by
          rintro rfl
          revert blank
          decide
        have hyphen : c ≠ '-' := by
          rintro rfl
          revert blank
          decide
        simp [endsRange, bracket, hyphen]
      · rw [afterSign, List.dropWhile_cons_of_neg blank] at passed
        split at passed
        · rename_i sign
          cases sign
          rfl
        · cases passed

theorem dropBlanks_followed (text more : List Char) :
    (text ++ ')' :: more).dropWhile Text.isBlank =
      text.dropWhile Text.isBlank ++ ')' :: more := by
  rw [List.dropWhile_append]
  split
  · rename_i nothing
    rw [List.isEmpty_iff.mp nothing]
    exact List.dropWhile_cons_of_neg (by decide)
  · rfl

theorem afterSign_followed (text more : List Char) :
    afterSign (text ++ ')' :: more) = afterSign text ++ ')' :: more := by
  unfold afterSign
  rw [dropBlanks_followed]
  cases text.dropWhile Text.isBlank with
  | nil => rfl
  | cons c left =>
      by_cases sign : c = '#'
      · subst sign
        exact dropBlanks_followed left more
      · simp [sign]

theorem endsRange_followed (verbose : Bool) (text more : List Char) :
    endsRange (characterAfter verbose (text ++ ')' :: more)) =
      endsRange (characterAfter verbose text) := by
  unfold characterAfter
  cases verbose with
  | false => cases text <;> rfl
  | true =>
      rw [if_pos rfl, if_pos rfl, afterSign_followed]
      cases passed : afterSign text with
      | nil => exact (endsRange_head passed).symm
      | cons c left => rfl

theorem Ahead.peekAfter? {lost : α → Reader → Prop} {next : Option Char → Read α} {c : Char}
    {rest : List Char} (decides : ∀ after after', endsRange after = endsRange after' →
      next after = next after')
    (nextAhead : ∀ after, Ahead lost (next after) (c :: rest)) :
    Ahead lost (peekAfter? >>= next) (c :: rest) := by
  intro flags names
  refine (nextAhead (characterAfter flags.verbose rest) flags names).congr ?_ fun more _ => ?_
  · rw [bind_run, peekAfter?_run]
    rfl
  · rw [bind_run, peekAfter?_run]
    exact congrFun (decides _ _ (endsRange_followed flags.verbose rest more)) _

theorem Shrinks.ends_outer {step : Read α} (shrinks : Shrinks step) {reader : Reader}
    (outer : Outer reader.rest) : Ends (fun _ after => Outer after.rest) (step reader) :=
  fun _ _ reads => outer.suffix (shrinks reads)

theorem ahead_rangeOf (first last : Primitive) (text : List Char) :
    Ahead Never (rangeOf first last) text := by
  unfold rangeOf
  split
  · refine (ahead_literalItem _ text).bind_never fun low rest =>
      (ahead_literalItem _ rest).bind_never fun high rest => ?_
    split
    · exact Ahead.pure _ _ _
    · exact Ahead.failure _ _
  · exact Ahead.failure _ _

theorem rangeOf_assertion (first : Primitive) (condition : Assertion) :
    rangeOf first (.assertion condition) = failure := by
  cases first <;> rfl

theorem ahead_rangeAfter (first : Primitive) (text : List Char) :
    Ahead (fun _ after => Outer after.rest) (rangeAfter first) text := by
  refine Ahead.peek (fun c rest _ => ?_) fun more flags names spent => ?_
  · refine Ahead.peekAfter? (fun after after' same => ?_) fun after => ?_
    · rw [Bool.or_assoc, Bool.or_assoc]
      unfold endsRange at same
      rw [same]
    split
    · split
      · exact (ahead_literalItem _ _).bind_never fun _ rest => Ahead.pure _ _ _
      · exact Ahead.pure _ _ _
      · exact Ahead.failure _ _
    · refine Ahead.advanceBlanks fun rest => Ahead.peek (fun c rest _ => ?_)
        fun more flags names spent => ?_
      · refine (ahead_setItem _).bind (fun last rest => ?_) fun last after overrun => ?_
        · exact (ahead_rangeOf first last rest).of_never _
        · rcases overrun with spent | ⟨rfl, _⟩
          · exact (stays_rangeOf first last).shrinks.ends_outer spent.outer
          · rw [rangeOf_assertion]
            exact ends_none _
      · exact (takes_setItem.shrinks.bind fun last =>
          (stays_rangeOf first last).shrinks).ends_outer spent.closing
  · have ends : Ends _ (rangeAfter first ⟨')' :: more, flags, names⟩) :=
      (shrinks_rangeAfter first).ends_outer spent.closing
    exact ends

theorem rangeAfter_assertion (condition : Assertion) (reader : Reader) :
    rangeAfter (.assertion condition) reader = none := by
  refine bind_eq_none fun c _ _ => bind_eq_none fun after _ _ => ?_
  split
  · rfl
  · exact bind_eq_none fun _ _ _ => bind_eq_none fun _ _ _ => bind_eq_none fun _ _ _ => rfl

theorem ahead_setRange (text : List Char) :
    Ahead (fun _ after => Outer after.rest) setRange text := by
  rw [setRange_eq]
  refine (ahead_setItem text).bind (fun first rest => ?_) fun first after overrun => ?_
  · exact (ahead_skipBlanks rest).bind_never fun _ rest => ahead_rangeAfter first rest
  · rcases overrun with spent | ⟨rfl, _⟩
    · exact (shrinks_skipBlanks.bind fun _ => shrinks_rangeAfter first).ends_outer spent.outer
    · exact ends_of_none (bind_eq_none fun _ between _ => rangeAfter_assertion _ between)

theorem ahead_leadingHyphens (fuel : Nat) (items : List SymbolSet) (text : List Char) :
    Ahead (fun _ after => Outer after.rest) (leadingHyphens fuel items) text := by
  induction fuel generalizing items text with
  | zero => exact Ahead.pure _ _ _
  | succ fuel inductionHypothesis =>
      refine Ahead.peek (fun c rest _ => ?_) fun more flags names spent =>
        ends_some spent.closing
      split
      · exact Ahead.advanceBlanks fun rest => inductionHypothesis _ rest
      · exact Ahead.pure _ _ _

/-- A set whose closing bracket is missing is not read. -/
theorem setItems_outer (operand : Operand) (depth : Nat) {reader : Reader}
    (outer : Outer reader.rest) : setItems operand depth reader = none := by
  induction depth generalizing operand reader with
  | zero => rfl
  | succ depth inductionHypothesis =>
      refine bind_eq_none fun _ between skips => ?_
      have outer := outer.suffix (shrinks_skipBlanks skips)
      obtain ⟨_ | ⟨c, rest⟩, flags, names⟩ := between
      · rfl
      have differs {d : Char} (parenthesis : d ≠ ')') (dollar : d ≠ '$') : c ≠ d :=
        outer.ne (List.mem_cons_self ..) parenthesis dollar
      rw [bind_run, peek_cons, Option.bind_some, if_neg (differs (by decide) (by decide)),
        if_neg (differs (by decide) (by decide))]
      rw [bind_run, accept_outer "&&" rfl (by decide) (by decide) outer, Option.bind_some,
        if_neg Bool.false_ne_true]
      rw [bind_run, accept_outer "--" rfl (by decide) (by decide) outer, Option.bind_some,
        if_neg Bool.false_ne_true]
      rw [bind_run, accept_outer "~~" rfl (by decide) (by decide) outer, Option.bind_some,
        if_neg Bool.false_ne_true]
      exact bind_eq_none fun _ _ reads =>
        inductionHypothesis _ (outer.suffix (takes_setRange.shrinks reads))

theorem no_colon {text : List Char} (plain : ':' ∉ text) (c : Char) (member : c ∈ text) :
    (c != ':') = true := by
  refine bne_iff_ne.mpr ?_
  rintro rfl
  exact plain member

theorem namedSetEnd?_none (negated : Bool) {rest : List Char} (plain : ':' ∉ rest) :
    namedSetEnd? negated rest = none := by
  rw [namedSetEnd?, List.takeWhile_eq_self_iff.mpr (no_colon plain), List.drop_length]

theorem namedSetEnd?_append (negated : Bool) {name : List Char} (plain : ':' ∉ name)
    (rest : List Char) : namedSetEnd? negated (name ++ ':' :: rest) =
      if rest.head? = some ']' then
        (namedSet? (String.ofList name)).map fun members => (negated, members, rest.tail)
      else none := by
  have taken : (name ++ ':' :: rest).takeWhile (· != ':') = name := by
    rw [List.takeWhile_append_of_pos (no_colon plain)]
    simp
  rw [namedSetEnd?, taken, List.drop_left]
  cases rest with
  | nil => rfl
  | cons c rest =>
      by_cases bracket : c = ']'
      · subst bracket
        rfl
      · simp [bracket]

theorem Outer.no_colon {text : List Char} (outer : Outer text) : ':' ∉ text := by
  intro member
  exact outer.ne member (by decide) (by decide) rfl

theorem namedSetEnd?_followed (negated : Bool) (rest : List Char) {more : List Char}
    (spent : Spent more) : namedSetEnd? negated (rest ++ ')' :: more) =
      (namedSetEnd? negated rest).map fun (negated, members, rest) =>
        (negated, members, rest ++ ')' :: more) := by
  by_cases colon : ':' ∈ rest
  · obtain ⟨name, left, rfl, plain⟩ := List.eq_append_cons_of_mem colon
    rw [List.append_assoc, List.cons_append, namedSetEnd?_append negated plain,
      namedSetEnd?_append negated plain]
    cases left with
    | nil => rfl
    | cons c left =>
        by_cases bracket : c = ']'
        · subst bracket
          cases namedSet? (String.ofList name) <;> rfl
        · simp [bracket]
  · rw [namedSetEnd?_none negated colon, namedSetEnd?_none negated]
    · rfl
    · rw [List.mem_append, not_or]
      exact ⟨colon, spent.closing.no_colon⟩

theorem namedSetAt?_followed (text : List Char) {more : List Char} (spent : Spent more) :
    namedSetAt? (text ++ ')' :: more) =
      (namedSetAt? text).map fun (negated, members, rest) =>
        (negated, members, rest ++ ')' :: more) := by
  have dropped {opening : List Char} (opens : opening.isPrefixOf text) :
      (text ++ ')' :: more).drop opening.length = text.drop opening.length ++ ')' :: more :=
    List.drop_append_of_le_length (List.isPrefixOf_iff_prefix.mp opens).length_le
  rw [namedSetAt?_eq, namedSetAt?_eq, isPrefixOf_followed (by decide),
    isPrefixOf_followed (by decide)]
  split
  · rename_i opens
    rw [← namedSetEnd?_followed true _ spent]
    exact congrArg (namedSetEnd? true) (dropped opens)
  split
  · rename_i opens
    rw [← namedSetEnd?_followed false _ spent]
    exact congrArg (namedSetEnd? false) (dropped opens)
  · rfl

theorem bracketItems_outer (negated : Bool) (first : List SymbolSet) (depth : Nat)
    {reader : Reader} (outer : Outer reader.rest) :
    bracketItems (setItems · depth) negated first reader = none :=
  bind_eq_none fun _ _ reads => nomatch (setItems_outer _ depth outer).symm.trans reads

theorem bracketTail_outer (negated : Bool) (hyphens : List SymbolSet) (depth : Nat)
    {reader : Reader} (outer : Outer reader.rest) :
    bracketTail (setItems · depth) negated hyphens reader = none := by
  refine bind_eq_none fun c _ peeks => ?_
  cases stays_peek peeks
  split
  · refine bind_eq_none fun _ _ moves => bind_eq_none fun _ _ peeks => ?_
    cases stays_peek peeks
    exact bracketItems_outer _ _ _ (outer.suffix (takes_advanceBlanks.shrinks moves))
  · exact bracketItems_outer _ _ _ outer

theorem bracketBody_outer (negated : Bool) (depth : Nat) {reader : Reader}
    (outer : Outer reader.rest) : bracketBody (setItems · depth) negated reader = none := by
  refine bind_eq_none fun _ _ measures => bind_eq_none fun hyphens between reads => ?_
  cases measures
  exact bracketTail_outer _ _ _ (outer.suffix (shrinks_leadingHyphens _ _ reads))

section

variable {depth : Nat} (itemsAhead : ∀ operand text, Ahead Never (setItems operand depth) text)

include itemsAhead

theorem ahead_bracketItems (negated : Bool) (first : List SymbolSet) (text : List Char) :
    Ahead Never (bracketItems (setItems · depth) negated first) text :=
  (itemsAhead _ text).bind_never fun _ rest =>
    (ahead_adjusted _ _ rest).bind_never fun _ _ => Ahead.pure _ _ _

theorem ahead_bracketTail (negated : Bool) (hyphens : List SymbolSet) (text : List Char) :
    Ahead Never (bracketTail (setItems · depth) negated hyphens) text := by
  refine Ahead.peek (fun c rest _ => ?_) fun more flags names spent =>
    ends_of_none (bracketItems_outer _ _ _ spent.closing)
  split
  · exact Ahead.advanceBlanks fun _ => Ahead.peek
      (fun _ _ _ => ahead_bracketItems itemsAhead _ _ _)
      fun more flags names spent => ends_of_none (bracketItems_outer _ _ _ spent.closing)
  · exact ahead_bracketItems itemsAhead _ _ _

theorem ahead_bracketBody (negated : Bool) (text : List Char) :
    Ahead Never (bracketBody (setItems · depth) negated) text := by
  refine Ahead.fuel ((steady_leadingHyphens _).bind _) fun fuel => ?_
  exact (ahead_leadingHyphens _ _ text).bind (ahead_bracketTail itemsAhead negated)
    fun hyphens after outer => ends_of_none (bracketTail_outer _ _ _ outer)

theorem ahead_bracketed_succ (c : Char) (rest : List Char) :
    Ahead Never (bracketed (depth + 1)) (c :: rest) := by
  rw [bracketed_succ]
  refine Ahead.advanceBlanks fun rest => Ahead.peek (fun c rest _ => ?_)
    fun more flags names spent => ?_
  · split
    · exact Ahead.advanceBlanks fun rest => ahead_bracketBody itemsAhead _ rest
    · exact ahead_bracketBody itemsAhead _ _
  · exact ends_of_none (bracketBody_outer _ _ spent.closing)

variable (operand : Operand)

theorem ahead_nestedSet (bracketAhead : ∀ c rest, Ahead Never (bracketed depth) (c :: rest))
    (c : Char) (rest : List Char) :
    Ahead Never (nestedSet (setItems · depth) operand (bracketed depth)) (c :: rest) := by
  intro flags names
  cases named : namedSetAt? (c :: rest) with
  | some found =>
      obtain ⟨negated, members, left⟩ := found
      have leftAhead : Ahead Never (addedSet (setItems · depth) operand
          (adjusted negated (.ranges members (SymbolSet.stateWeight * 2 + 16)))) left :=
        (ahead_adjusted _ _ left).bind_never fun set rest => itemsAhead _ rest
      refine (leftAhead flags names).congr (nestedSet_named named _ _ _) fun more spent => ?_
      rw [nestedSet_named ((namedSetAt?_followed _ spent).trans (congrArg (Option.map _) named))]
  | none =>
      have bracketedAhead : Ahead Never (addedSet (setItems · depth) operand (bracketed depth))
          (c :: rest) :=
        (bracketAhead c rest).bind_never fun set rest => itemsAhead _ rest
      refine (bracketedAhead flags names).congr (nestedSet_bracketed named _ _ _)
        fun more spent => ?_
      exact nestedSet_bracketed
        ((namedSetAt?_followed _ spent).trans (congrArg (Option.map _) named)) _ _ _

theorem ahead_joinedSet (text : List Char) :
    Ahead Never (joinedSet (setItems · depth) operand) text := by
  refine (ahead_accept "&&" (by decide) _).bind_never fun intersects rest => ?_
  split
  · exact (ahead_close _ _).bind_never fun _ rest => itemsAhead _ rest
  refine (ahead_accept "--" (by decide) _).bind_never fun subtracts rest => ?_
  split
  · exact (ahead_close _ _).bind_never fun _ rest => itemsAhead _ rest
  refine (ahead_accept "~~" (by decide) _).bind_never fun differs rest => ?_
  split
  · exact (ahead_close _ _).bind_never fun _ rest => itemsAhead _ rest
  · refine (ahead_setRange _).bind (fun _ rest => itemsAhead _ rest) fun _ after outer => ?_
    exact ends_of_none (setItems_outer _ _ outer)

theorem ahead_setItems_succ
    (bracketAhead : ∀ c rest, Ahead Never (bracketed depth) (c :: rest)) (text : List Char) :
    Ahead Never (setItems operand (depth + 1)) text := by
  rw [setItems_succ]
  refine (ahead_skipBlanks text).bind_never fun _ rest => Ahead.peek (fun c rest _ => ?_)
    fun more flags names spent => ?_
  · split
    · exact ahead_nestedSet itemsAhead operand bracketAhead c rest
    split
    · exact Ahead.advance (ahead_close _ _)
    · exact ahead_joinedSet itemsAhead operand _
  · have nothing : setItems operand (depth + 1) ⟨')' :: more, flags, names⟩ = none :=
      setItems_outer operand (depth + 1) spent.closing
    obtain ⟨_, _, _, _, _, verbose⟩ := flags
    cases verbose <;> exact ends_of_none nothing

end

theorem ahead_bracketed_setItems (depth : Nat) :
    (∀ c rest, Ahead Never (bracketed depth) (c :: rest)) ∧
    ∀ operand text, Ahead Never (setItems operand depth) text := by
  induction depth with
  | zero => exact ⟨fun _ _ => Ahead.failure _ _, fun _ _ => Ahead.failure _ _⟩
  | succ depth inductionHypothesis =>
      obtain ⟨bracketAhead, itemsAhead⟩ := inductionHypothesis
      exact ⟨ahead_bracketed_succ itemsAhead, fun operand =>
        ahead_setItems_succ itemsAhead operand bracketAhead⟩

end BotConfig.Pattern.Read
