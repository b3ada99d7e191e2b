import BotConfig.Proofs.Brackets

/-!
Groups and alternatives in front of a closing parenthesis.

What is read alone is read the same in front of a closing parenthesis, or a comment takes it.  What
is not read alone uses the parenthesis up, if it is read at all.
-/

namespace BotConfig.Pattern.Read

variable {α β : Type}

theorem ahead_flagItems (fuel : Nat) (seen : List Char) (flags : Flags) (text : List Char) :
    Ahead (fun _ after => ∃ more, Spent more ∧ after.rest = ')' :: more)
      (flagItems fuel seen flags) text := by
  induction fuel generalizing seen flags text with
  | zero => exact Ahead.failure _ _
  | succ fuel inductionHypothesis =>
      refine Ahead.peek (fun c rest _ => ?_) fun more flags' names spent => ?_
      · split
        · split
          · exact Ahead.failure _ _
          · exact Ahead.pure _ _ _
        split
        · exact Ahead.failure _ _
        split
        · exact Ahead.advance (inductionHypothesis _ _ rest)
        split
        · exact Ahead.advance (inductionHypothesis _ _ rest)
        · exact Ahead.failure _ _
      · rw [if_pos (by decide)]
        split
        · exact ends_none _
        · exact ends_some ⟨more, spent, rfl⟩

theorem ahead_groupName (fuel : Nat) (done : List Char) (text : List Char) :
    Ahead Never (groupName fuel done) text := by
  induction fuel generalizing done text with
  | zero => exact Ahead.failure _ _
  | succ fuel inductionHypothesis =>
      have further (c : Char) (rest : List Char) (allowed : Bool) : Ahead Never (if allowed then do
          advance
          groupName fuel (c :: done)
        else failure) (c :: rest) := by
        split
        · exact Ahead.advance (inductionHypothesis _ rest)
        · exact Ahead.failure _ _
      refine Ahead.peek (fun c rest _ => ?_) fun more flags names spent => ?_
      · dsimp only
        split
        · refine Ahead.advance ?_
          split
          · exact Ahead.failure _ _
          · exact Ahead.pure _ _ _
        · exact further c rest _
      · have letter : Text.isLetter ')' = false := by decide +kernel
        have numeral : Text.isLetterOrNumeral ')' = false := by decide +kernel
        refine ends_of_none ?_
        simp [letter, numeral]

theorem Ahead.forIn {items : List β} {body : β → PUnit → Read (ForInStep PUnit)}
    (bodyAhead : ∀ item ∈ items, ∀ text, Ahead Never (body item ⟨⟩) text) (text : List Char) :
    Ahead Never (forIn items PUnit.unit body) text := by
  induction items generalizing text with
  | nil => exact Ahead.pure _ _ _
  | cons item items inductionHypothesis =>
      rw [List.forIn_cons]
      refine (bodyAhead item (List.mem_cons_self ..) text).bind_never fun next rest => ?_
      split
      · exact Ahead.pure _ _ _
      · exact inductionHypothesis
          (fun item member => bodyAhead item (List.mem_cons_of_mem _ member)) rest

theorem ahead_acceptEither (first second : String) (firstPlain : ')' ∉ first.toList)
    (secondPlain : ')' ∉ second.toList) (text : List Char) :
    Ahead Never (acceptEither first second) text := by
  refine (ahead_accept first firstPlain text).bind_never fun found rest => ?_
  split
  · exact Ahead.pure _ _ _
  · exact ahead_accept second secondPlain rest

/-- The end of a group's name, which no group has had before. -/
theorem ahead_named (name : String) (head : GroupHead) (text : List Char) :
    Ahead Never (do
      let reader ← get
      if reader.names.contains name then failure
      set { reader with names := name :: reader.names }
      return head) text := by
  intro flags names
  by_cases known : names.contains name
  · refine .lost ?_ fun more _ => ends_of_none ?_
    all_goals
      rw [bind_run, get_run, Option.bind_some]
      dsimp only
      rw [if_pos known]
      rfl
  · refine .same head ⟨text, flags, name :: names⟩ ?_ fun more _ => ?_
    all_goals
      rw [bind_run, get_run, Option.bind_some]
      dsimp only
      rw [if_neg known]
      rfl

/-- The end of a group's flags. -/
def flagsEnd (seen : List Char) (flags : Flags) : Read GroupHead := do
  let c ← peek
  advance
  if c = ':' then return .opening false flags
  else if seen.isEmpty then failure
  else return .setting flags

theorem flagsEnd_closing (seen : List Char) (flags : Flags) {more : List Char} (spent : Spent more)
    (flags' : Flags) (names : List String) :
    Ends (fun head after => (∃ flags, head = .setting flags) ∧ Spent after.rest)
      (flagsEnd seen flags ⟨')' :: more, flags', names⟩) := by
  unfold flagsEnd
  rw [bind_run, peek_cons, Option.bind_some, bind_run, advance_run, Option.bind_some]
  dsimp only
  rw [if_neg (by decide)]
  split
  · exact ends_none _
  · exact ends_some ⟨⟨flags, rfl⟩, spent⟩

theorem ahead_flagsEnd (seen : List Char) (flags : Flags) (text : List Char) :
    Ahead (fun head after => (∃ flags, head = .setting flags) ∧ Spent after.rest)
      (flagsEnd seen flags) text := by
  refine Ahead.peek (fun c rest _ => Ahead.advance ?_) fun more flags' names spent =>
    flagsEnd_closing seen flags spent flags' names
  split
  · exact Ahead.pure _ _ _
  split
  · exact Ahead.failure _ _
  · exact Ahead.pure _ _ _

theorem ahead_groupHead (c : Char) (rest : List Char) :
    Ahead (fun head after => (∃ flags, head = .setting flags) ∧ Spent after.rest) groupHead
      (c :: rest) := by
  refine Ahead.advanceBlanks fun rest => Ahead.flags fun before =>
    (Ahead.forIn (fun lookAround member rest => ?_) rest).bind_never fun _ rest =>
    (ahead_acceptEither _ _ (by decide) (by decide) rest).bind_never fun named rest => ?_
  · refine (ahead_accept lookAround ?_ rest).bind_never fun found rest => ?_
    · revert lookAround
      decide
    split
    · rw [failure_bind]
      exact Ahead.failure _ _
    · exact Ahead.pure _ _ _
  split
  · refine Ahead.fuel ((steady_groupName _).bind _) fun fuel => ?_
    exact (ahead_groupName _ _ rest).bind_never fun name rest => (ahead_named _ _ rest).of_never _
  refine (ahead_accept _ (by decide) rest).bind_never fun flagged rest => ?_
  split
  · refine Ahead.fuel ((steady_flagItems _ _).bind _) fun fuel => ?_
    refine (ahead_flagItems _ _ _ rest).bind (fun items rest => ahead_flagsEnd items.1 items.2 rest)
      fun items after found => ?_
    obtain ⟨_, flags, names⟩ := after
    obtain ⟨more, spent, rfl⟩ := found
    exact flagsEnd_closing items.1 items.2 spent flags names
  · exact Ahead.pure _ _ _

theorem ahead_countDigits (fuel : Nat) (done : List Char) (text : List Char) :
    Ahead Never (countDigits fuel done) text := by
  induction fuel generalizing done text with
  | zero => exact Ahead.pure _ _ _
  | succ fuel inductionHypothesis =>
      refine Ahead.peek? (fun c rest _ => ?_) fun flags names =>
        .same done.reverse ⟨[], flags, names⟩ rfl fun _ _ => rfl
      dsimp only
      split
      · exact Ahead.advanceBlanks fun rest => inductionHypothesis _ rest
      · exact Ahead.pure _ _ _

theorem ahead_skipAllBlanks (text : List Char) : Ahead Never skipAllBlanks text := by
  intro flags names
  refine .same () ⟨text.dropWhile Text.isBlank, flags, names⟩ rfl fun more _ => ?_
  rw [← dropBlanks_followed]
  rfl

theorem ahead_count (text : List Char) : Ahead Never count text := by
  refine (ahead_skipAllBlanks text).bind_never fun _ rest => ?_
  refine Ahead.fuel ((steady_countDigits _).bind _) fun fuel => ?_
  refine (ahead_countDigits _ _ rest).bind_never fun digits rest =>
    (ahead_skipAllBlanks rest).bind_never fun _ rest => (ahead_skipBlanks rest).bind_never
    fun _ rest => ?_
  dsimp only
  split
  · exact Ahead.failure _ _
  · exact Ahead.pure _ _ _

theorem ahead_skipLazy (text : List Char) : Ahead Never skipLazy text := by
  refine Ahead.peek? (fun c rest _ => ?_) fun flags names => .same () ⟨[], flags, names⟩ rfl
    fun _ _ => rfl
  split
  · exact ahead_advance c rest
  · exact Ahead.pure _ _ _

theorem ahead_timesEnd (least : Nat) (most : Option Nat) (text : List Char) :
    Ahead Never (timesEnd least most) text := by
  refine Ahead.peek (fun c rest _ => ?_) fun more flags names _ => ends_none _
  dsimp only
  split
  · rw [failure_bind]
    exact Ahead.failure _ _
  refine Ahead.advanceBlanks fun rest => (ahead_skipLazy rest).bind_never fun _ rest => ?_
  split
  · rw [failure_bind]
    exact Ahead.failure _ _
  · exact Ahead.pure _ _ _

theorem ahead_countedTimes (c : Char) (rest : List Char) :
    Ahead Never countedTimes (c :: rest) := by
  rw [countedTimes_eq]
  refine Ahead.advanceBlanks fun rest => (ahead_count rest).bind_never fun least rest =>
    Ahead.peek (fun c rest _ => ?_) fun more flags names _ => ends_none _
  split
  · refine Ahead.advanceBlanks fun rest => Ahead.peek (fun c rest _ => ?_)
      fun more flags names spent => ?_
    · split
      · exact ahead_timesEnd _ _ _
      · exact (ahead_count _).bind_never fun most rest => ahead_timesEnd _ _ rest
    · rw [if_neg (by decide), bind_run, count_outer spent.closing]
      exact ends_none _
  · exact ahead_timesEnd _ _ _

theorem ahead_literal (c : Char) (byTwoDigits : Bool) (text : List Char) :
    Ahead Never (literal c byTwoDigits) text := by
  refine Ahead.flags fun flags => ?_
  dsimp only
  split
  · rw [failure_bind]
    exact Ahead.failure _ _
  · exact Ahead.pure _ _ _

theorem ahead_anyChar (text : List Char) : Ahead Never anyChar text := by
  refine Ahead.flags fun flags => ?_
  dsimp only
  split
  · rw [failure_bind]
    exact Ahead.failure _ _
  · exact Ahead.pure _ _ _

theorem ahead_escaped (item : Primitive) (text : List Char) : Ahead Never (escaped item) text := by
  cases item with
  | literal c byTwoDigits => exact ahead_literal c byTwoDigits text
  | anyChar => exact ahead_anyChar text
  | set set => exact Ahead.pure _ _ _
  | assertion condition => exact Ahead.pure _ _ _

theorem ahead_primitive (c : Char) (rest : List Char) :
    Ahead (fun _ after => Spent after.rest ∨ Doomed after) primitive (c :: rest) := by
  rw [primitive_eq]
  refine Ahead.flags fun flags => Ahead.peek_cons ?_
  split
  · refine (ahead_escape _ _).bind (fun item rest => ?_) fun item after overrun => ?_
    · exact (ahead_escaped item rest).of_never _
    · intro expression after' reads
      cases stays_escaped item reads
      exact overrun.imp_right And.right
  · exact Ahead.advance ((ahead_anyChar _).of_never _)
  · exact Ahead.advance (Ahead.pure _ _ _)
  · exact Ahead.advance (Ahead.pure _ _ _)
  · exact Ahead.advance ((ahead_literal _ _ _).of_never _)

/-- What may stand behind a closing parenthesis is read to its end. -/
theorem alternatives_spent {items branches : List Expression} {fuel : Nat}
    {reader after : Reader} {expression : Expression} (spent : Spent reader.rest)
    (reads : alternatives items branches fuel reader = some (expression, after)) :
    after.rest = [] := by
  induction fuel generalizing items branches reader with
  | zero => cases reads
  | succ fuel inductionHypothesis =>
      obtain ⟨_, between, skips, reads⟩ := bind_eq_some reads
      have spent := spent.suffix (shrinks_skipBlanks skips)
      obtain ⟨_, _, ⟨⟩, reads⟩ := bind_eq_some reads
      obtain ⟨_ | ⟨c, rest⟩, flags, names⟩ := between
      · cases reads
        rfl
      · cases spent.mem (List.mem_cons_self ..)
        obtain ⟨item, between, itemReads, reads⟩ := bind_eq_some reads
        exact inductionHypothesis (spent.suffix (takes_primitive.shrinks itemReads)) reads

theorem alternatives_doomed (items branches : List Expression) (fuel : Nat) {reader : Reader}
    (doomed : Doomed reader) : alternatives items branches fuel reader = none := by
  cases fuel with
  | zero => rfl
  | succ fuel =>
      obtain ⟨_ | ⟨c, rest⟩, ⟨_, _, _, _, _, verbose⟩, names⟩ := reader
      · cases doomed.1
      · cases doomed.1
        have uncounted := doomed.2
        refine bind_eq_none fun _ between skips => bind_eq_none fun next _ peeks => ?_
        cases verbose <;> cases skips <;> cases peeks
        all_goals exact bind_eq_none fun _ _ reads => nomatch uncounted.symm.trans reads

theorem ahead_repeatLast (least : Nat) (most : Option Nat) (items : List Expression)
    (text : List Char) : Ahead Never (repeatLast least most items) text := by
  unfold repeatLast
  split
  · exact Ahead.failure _ _
  · exact Ahead.failure _ _
  · exact Ahead.pure _ _ _

section

variable {further : List Expression → List Expression → Read Expression}
  (furtherAhead : ∀ items branches text,
    Ahead (fun _ after => after.rest = []) (further items branches) text)
  (items branches : List Expression)

include furtherAhead

theorem ahead_repeatedItem (least : Nat) (most : Option Nat) (text : List Char) :
    Ahead (fun _ after => after.rest = [])
      (repeatedItem further items branches least most) text :=
  (ahead_repeatLast _ _ _ text).bind_never fun items rest => furtherAhead items _ rest

theorem ahead_repeatedBySign (least : Nat) (most : Option Nat) (c : Char) (rest : List Char) :
    Ahead (fun _ after => after.rest = [])
      (repeatedBySign further items branches least most) (c :: rest) :=
  Ahead.advance ((ahead_skipLazy rest).bind_never fun _ rest =>
    ahead_repeatedItem furtherAhead items branches least most rest)

variable (furtherSpent : ∀ items branches ⦃reader after expression⦄, Spent reader.rest →
  further items branches reader = some (expression, after) → after.rest = [])

include furtherSpent

theorem ahead_afterHead (before : Flags) (head : GroupHead) (text : List Char) :
    Ahead (fun _ after => after.rest = []) (afterHead further items branches before head) text := by
  cases head with
  | setting flags => exact Ahead.setFlags (furtherAhead _ _ text) flags
  | opening captures flags =>
      refine Ahead.setFlags ?_ flags
      refine (furtherAhead [] [] text).bind (fun body rest => ?_) fun body after ended => ?_
      · refine Ahead.peek? (fun c rest _ => ?_) fun flags names => .lost rfl
          fun more spent _ _ reads => furtherSpent _ _ spent reads
        split
        · exact Ahead.failure _ _
        · exact Ahead.setFlags (Ahead.advance (furtherAhead _ _ rest)) before
      · obtain ⟨_, flags, names⟩ := after
        cases ended
        exact ends_none _

theorem ahead_group (c : Char) (rest : List Char) :
    Ahead (fun _ after => after.rest = []) (do
      let before ← Read.flags
      afterHead further items branches before (← groupHead)) (c :: rest) := by
  refine Ahead.flags fun before => ?_
  refine (ahead_groupHead c rest).bind (fun head rest => ?_) fun head after found => ?_
  · exact ahead_afterHead furtherAhead items branches furtherSpent before head rest
  · obtain ⟨⟨flags, rfl⟩, spent⟩ := found
    intro expression last reads
    obtain ⟨_, _, ⟨⟩, reads⟩ := bind_eq_some reads
    have spent : Spent ({ after with flags } : Reader).rest := spent
    exact furtherSpent _ _ spent reads

variable (furtherDoomed : ∀ items branches ⦃reader⦄, Doomed reader →
  further items branches reader = none)

include furtherDoomed

theorem ahead_nextItem (c : Char) (rest : List Char) :
    Ahead (fun _ after => after.rest = []) (nextItem further items branches (some c))
      (c :: rest) := by
  have bySign := ahead_repeatedBySign furtherAhead items branches
  generalize peeked : some c = next
  unfold nextItem
  split
  · exact Ahead.pure _ _ _
  · exact Ahead.pure _ _ _
  · exact ahead_group furtherAhead items branches furtherSpent c rest
  · exact Ahead.advance (furtherAhead _ _ rest)
  · refine Ahead.fuel (steady_bracketed.bind _) fun fuel => ?_
    exact ((ahead_bracketed_setItems _).1 c rest).bind_never fun set rest =>
      furtherAhead _ _ rest
  · exact bySign _ _ c rest
  · exact bySign _ _ c rest
  · exact bySign _ _ c rest
  · exact (ahead_countedTimes c rest).bind_never fun times rest =>
      ahead_repeatedItem furtherAhead items branches _ _ rest
  · refine (ahead_primitive c rest).bind (fun item rest => furtherAhead _ _ rest)
      fun item after overrun => ?_
    rcases overrun with spent | doomed
    · exact fun _ _ reads => furtherSpent _ _ spent reads
    · exact ends_of_none (furtherDoomed _ _ doomed)

end

theorem ahead_alternatives (items branches : List Expression) (fuel : Nat) (text : List Char) :
    Ahead (fun _ after => after.rest = []) (alternatives items branches fuel) text := by
  induction fuel generalizing items branches text with
  | zero => exact Ahead.failure _ _
  | succ fuel inductionHypothesis =>
      rw [alternatives_succ]
      refine (ahead_skipBlanks text).bind_never fun _ rest => Ahead.peek? (fun c rest _ => ?_)
        fun flags names => .same _ ⟨[], flags, names⟩ rfl fun _ _ => rfl
      exact ahead_nextItem inductionHypothesis items branches
        (fun _ _ _ _ _ spent reads => alternatives_spent spent reads)
        (fun _ _ _ doomed => alternatives_doomed _ _ _ doomed) c rest

end BotConfig.Pattern.Read
