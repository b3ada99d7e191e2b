import BotConfig.Proofs.Fuel

/-!
Reading a pattern with a closing parenthesis behind it.

A pattern stands alone, or a closing parenthesis follows it.  What is read of it is the same, or a
comment at its end has taken what follows too, or the pattern alone ends too early and is not valid.
In the last case what follows has been taken for a part of the pattern, and no closing parenthesis
is left.
-/

namespace BotConfig.Pattern.Read

variable {α β : Type}

/-! ### Texts behind a pattern -/

/-- What may come behind a closing parenthesis: a dollar sign or nothing. -/
def Spent (text : List Char) : Prop := text <:+ ['$']

/-- Nothing but what comes behind a pattern. -/
def Outer (text : List Char) : Prop := ∀ c ∈ text, c = ')' ∨ c = '$'

theorem Spent.mem {text : List Char} (spent : Spent text) {c : Char} (member : c ∈ text) :
    c = '$' :=
  List.mem_singleton.mp (spent.subset member)

theorem Spent.outer {text : List Char} (spent : Spent text) : Outer text :=
  fun _ member => .inr (spent.mem member)

theorem Spent.suffix {text rest : List Char} (spent : Spent text) (suffix : rest <:+ text) :
    Spent rest :=
  suffix.trans spent

theorem Outer.suffix {text rest : List Char} (outer : Outer text) (suffix : rest <:+ text) :
    Outer rest :=
  fun c member => outer c (suffix.subset member)

theorem Outer.ne {text : List Char} (outer : Outer text) {c d : Char} (member : c ∈ text)
    (parenthesis : d ≠ ')') (dollar : d ≠ '$') : c ≠ d := by
  rintro rfl
  rcases outer c member with same | same
  · exact parenthesis same
  · exact dollar same

theorem Spent.closing {more : List Char} (spent : Spent more) : Outer (')' :: more) := by
  intro c member
  rcases List.mem_cons.mp member with rfl | member
  · exact .inl rfl
  · exact .inr (spent.mem member)

/-! ### Reading side by side -/

/-- What every result of a step has. -/
def Ends (fact : α → Reader → Prop) (outcome : Option (α × Reader)) : Prop :=
  ∀ result after, outcome = some (result, after) → fact result after

theorem ends_none (fact : α → Reader → Prop) : Ends fact none := nofun

theorem ends_of_none {fact : α → Reader → Prop} {outcome : Option (α × Reader)}
    (nothing : outcome = none) : Ends fact outcome :=
  nothing ▸ ends_none fact

theorem bind_eq_none {first : Read α} {next : α → Read β} {reader : Reader}
    (nothing : ∀ result after, first reader = some (result, after) → next result after = none) :
    (first >>= next) reader = none := by
  rw [bind_run]
  exact Option.bind_eq_none_iff.mpr fun found reads => nothing found.1 found.2 reads

theorem ends_some {fact : α → Reader → Prop} {result : α} {after : Reader}
    (holds : fact result after) : Ends fact (some (result, after)) := by
  rintro _ _ ⟨⟩
  exact holds

theorem Ends.bind {fact : α → Reader → Prop} {fact' : β → Reader → Prop} {first : Read α}
    {next : α → Read β} {reader : Reader} (firstEnds : Ends fact (first reader))
    (nextEnds : ∀ result after, fact result after → Ends fact' (next result after)) :
    Ends fact' ((first >>= next) reader) := by
  intro result after reads
  obtain ⟨middle, between, firstReads, nextReads⟩ := bind_eq_some reads
  exact nextEnds middle between (firstEnds middle between firstReads) result after nextReads

/-- No result at all. -/
def Never : α → Reader → Prop := fun _ _ => False

/-- How an outcome goes with the outcomes where a closing parenthesis follows: what follows is still
there, or a comment has taken it, or there is no outcome without it. -/
inductive Keeps (lost : α → Reader → Prop) (outcome : Option (α × Reader))
    (followed : List Char → Option (α × Reader)) : Prop where
  | same (result : α) (after : Reader) (alone : outcome = some (result, after))
      (left : ∀ more, Spent more →
        followed more = some (result, { after with rest := after.rest ++ ')' :: more }))
  | swallowed (result : α) (after : Reader) (alone : outcome = some (result, after))
      (gone : ∀ more, Spent more → followed more = some (result, after))
  | lost (alone : outcome = none) (ends : ∀ more, Spent more → Ends lost (followed more))

theorem Keeps.weaken {lost lost' : α → Reader → Prop} {outcome : Option (α × Reader)}
    {followed : List Char → Option (α × Reader)} (keeps : Keeps lost outcome followed)
    (weaker : ∀ result after, lost result after → lost' result after) :
    Keeps lost' outcome followed := by
  cases keeps with
  | same _ _ alone left => exact .same _ _ alone left
  | swallowed _ _ alone gone => exact .swallowed _ _ alone gone
  | lost alone ends =>
      exact .lost alone fun more spent result after reads =>
        weaker result after (ends more spent result after reads)

theorem Keeps.congr {lost : α → Reader → Prop} {outcome outcome' : Option (α × Reader)}
    {followed followed' : List Char → Option (α × Reader)} (keeps : Keeps lost outcome followed)
    (alone : outcome' = outcome) (same : ∀ more, Spent more → followed' more = followed more) :
    Keeps lost outcome' followed' := by
  subst alone
  cases keeps with
  | same _ _ alone left =>
      exact .same _ _ alone fun more spent => (same more spent).trans (left more spent)
  | swallowed _ _ alone gone =>
      exact .swallowed _ _ alone fun more spent => (same more spent).trans (gone more spent)
  | lost alone ends => exact .lost alone fun more spent => same more spent ▸ ends more spent

/-- An outcome that does not depend on what follows. -/
theorem Keeps.of_equal (lost : α → Reader → Prop) (outcome : Option (α × Reader)) :
    Keeps lost outcome fun _ => outcome := by
  cases outcome with
  | none => exact .lost rfl fun _ _ => ends_none lost
  | some found => exact .swallowed _ _ rfl fun _ _ => rfl

/-- A step of reading a text goes with the same step where a closing parenthesis follows. -/
def Ahead (lost : α → Reader → Prop) (step : Read α) (text : List Char) : Prop :=
  ∀ flags names, Keeps lost (step ⟨text, flags, names⟩)
    fun more => step ⟨text ++ ')' :: more, flags, names⟩

theorem Ahead.pure (lost : α → Reader → Prop) (result : α) (text : List Char) :
    Ahead lost (pure result) text :=
  fun _ _ => .same _ _ rfl fun _ _ => rfl

theorem Ahead.failure (lost : α → Reader → Prop) (text : List Char) :
    Ahead lost (failure : Read α) text :=
  fun _ _ => .lost rfl fun _ _ => ends_none lost

theorem Ahead.bind {lost : α → Reader → Prop} {lost' : β → Reader → Prop} {first : Read α}
    {next : α → Read β} {text : List Char} (firstAhead : Ahead lost first text)
    (nextAhead : ∀ result rest, Ahead lost' (next result) rest)
    (ends : ∀ result after, lost result after → Ends lost' (next result after)) :
    Ahead lost' (first >>= next) text := by
  intro flags names
  cases firstAhead flags names with
  | same result after alone left =>
      refine (nextAhead result after.rest after.flags after.names).congr ?_ fun more spent => ?_
      · rw [bind_run, alone]
        rfl
      · rw [bind_run, left more spent]
        rfl
  | swallowed result after alone gone =>
      refine (Keeps.of_equal lost' (next result after)).congr ?_ fun more spent => ?_
      · rw [bind_run, alone]
        rfl
      · rw [bind_run, gone more spent]
        rfl
  | lost alone ends' =>
      refine .lost (by rw [bind_run, alone]; rfl) fun more spent => ?_
      exact (ends' more spent).bind ends

/-- Where the first step is never lost, nothing more is to be said. -/
theorem Ahead.bind_never {lost : β → Reader → Prop} {first : Read α} {next : α → Read β}
    {text : List Char} (firstAhead : Ahead Never first text)
    (nextAhead : ∀ result rest, Ahead lost (next result) rest) : Ahead lost (first >>= next) text :=
  firstAhead.bind nextAhead fun _ _ => False.elim

theorem Ahead.weaken {lost lost' : α → Reader → Prop} {step : Read α} {text : List Char}
    (ahead : Ahead lost step text)
    (weaker : ∀ result after, lost result after → lost' result after) : Ahead lost' step text :=
  fun flags names => (ahead flags names).weaken weaker

theorem Ahead.of_never {step : Read α} {text : List Char} (ahead : Ahead Never step text)
    (lost : α → Reader → Prop) : Ahead lost step text :=
  ahead.weaken fun _ _ => False.elim

theorem Ahead.peek {lost : α → Reader → Prop} {next : Char → Read α} {text : List Char}
    (inside : ∀ c rest, text = c :: rest → Ahead lost (next c) (c :: rest))
    (atEnd : ∀ more flags names, Spent more → Ends lost (next ')' ⟨')' :: more, flags, names⟩)) :
    Ahead lost (peek >>= next) text := by
  intro flags names
  cases text with
  | nil => exact .lost rfl fun more spent => atEnd more flags names spent
  | cons c rest => exact inside c rest rfl flags names

theorem Ahead.peek_cons {lost : α → Reader → Prop} {next : Char → Read α} {c : Char}
    {rest : List Char} (nextAhead : Ahead lost (next c) (c :: rest)) :
    Ahead lost (Read.peek >>= next) (c :: rest) :=
  nextAhead

theorem Ahead.peek? {lost : α → Reader → Prop} {next : Option Char → Read α} {text : List Char}
    (inside : ∀ c rest, text = c :: rest → Ahead lost (next (some c)) (c :: rest))
    (atEnd : ∀ flags names, Keeps lost (next none ⟨[], flags, names⟩)
      fun more => next (some ')') ⟨')' :: more, flags, names⟩) :
    Ahead lost (peek? >>= next) text := by
  intro flags names
  cases text with
  | nil => exact atEnd flags names
  | cons c rest => exact inside c rest rfl flags names

theorem Ahead.flags {lost : α → Reader → Prop} {next : Flags → Read α} {text : List Char}
    (nextAhead : ∀ flags, Ahead lost (next flags) text) : Ahead lost (Read.flags >>= next) text :=
  fun flags names => nextAhead flags flags names

theorem ahead_advance (c : Char) (rest : List Char) : Ahead Never advance (c :: rest) :=
  fun _ _ => .same _ _ rfl fun _ _ => rfl

theorem Ahead.advance {lost : α → Reader → Prop} {next : Read α} {c : Char} {rest : List Char}
    (nextAhead : Ahead lost next rest) : Ahead lost (do advance; next) (c :: rest) :=
  nextAhead

theorem Ahead.setFlags {lost : α → Reader → Prop} {next : Read α} {text : List Char}
    (nextAhead : Ahead lost next text) (flags : Flags) :
    Ahead lost (do modify fun reader => { reader with flags }; next) text :=
  fun _ names => nextAhead flags names

/-- What comes behind blanks is still there, or a comment has taken it. -/
theorem withoutBlanks_followed (inComment : Bool) (text : List Char) :
    (∀ more, Spent more → withoutBlanks inComment (text ++ ')' :: more) =
      withoutBlanks inComment text ++ ')' :: more) ∨
    withoutBlanks inComment text = [] ∧
      ∀ more, Spent more → withoutBlanks inComment (text ++ ')' :: more) = [] := by
  induction text generalizing inComment with
  | nil =>
      cases inComment with
      | false => exact .inl fun _ _ => rfl
      | true =>
          refine .inr ⟨rfl, fun more spent => ?_⟩
          rcases List.suffix_cons_iff.mp spent with rfl | suffix
          · rfl
          · cases List.suffix_nil.mp suffix
            rfl
  | cons c text inductionHypothesis =>
      simp only [List.cons_append, withoutBlanks]
      split
      · exact inductionHypothesis _
      split
      · exact inductionHypothesis _
      split
      · exact inductionHypothesis _
      · exact .inl fun _ _ => rfl

theorem ahead_skipBlanks (text : List Char) : Ahead Never skipBlanks text := by
  intro flags names
  cases verbose : flags.verbose with
  | false =>
      refine .same () ⟨text, flags, names⟩ ?_ fun more _ => ?_
      all_goals
        rw [skipBlanks_run, verbose]
        rfl
  | true =>
      rcases withoutBlanks_followed false text with left | ⟨empty, gone⟩
      · refine .same () ⟨withoutBlanks false text, flags, names⟩ ?_ fun more spent => ?_
        · rw [skipBlanks_run, verbose]
          rfl
        · rw [skipBlanks_run, verbose, ← left more spent]
          rfl
      · refine .swallowed () ⟨[], flags, names⟩ ?_ fun more spent => ?_
        · rw [skipBlanks_run, verbose, ← empty]
          rfl
        · rw [skipBlanks_run, verbose, ← gone more spent]
          rfl

theorem Ahead.advanceBlanks {lost : α → Reader → Prop} {next : Read α} {c : Char}
    {rest : List Char} (nextAhead : ∀ rest, Ahead lost next rest) :
    Ahead lost (do advanceBlanks; next) (c :: rest) :=
  (ahead_skipBlanks rest).bind_never fun _ => nextAhead

theorem isPrefixOf_followed {text : List Char} (plain : ')' ∉ text) (rest more : List Char) :
    text.isPrefixOf (rest ++ ')' :: more) = text.isPrefixOf rest := by
  induction text generalizing rest with
  | nil => rw [List.isPrefixOf_nil_left, List.isPrefixOf_nil_left]
  | cons c text inductionHypothesis =>
      rw [List.mem_cons, not_or] at plain
      cases rest with
      | nil =>
          have other : (c == ')') = false := beq_eq_false_iff_ne.mpr (Ne.symm plain.1)
          rw [List.nil_append, List.isPrefixOf_cons_cons, other]
          rfl
      | cons d rest =>
          rw [List.cons_append, List.isPrefixOf_cons_cons, List.isPrefixOf_cons_cons,
            inductionHypothesis plain.2]

theorem ahead_accept (word : String) (plain : ')' ∉ word.toList) (text : List Char) :
    Ahead Never (accept word) text := by
  intro flags names
  by_cases found : word.toList.isPrefixOf text
  · refine .same true ⟨text.drop word.length, flags, names⟩ ?_ fun more _ => ?_
    · rw [accept_run, if_pos found]
    · have short := (List.isPrefixOf_iff_prefix.mp found).length_le
      rw [String.length_toList] at short
      rw [accept_run, isPrefixOf_followed plain, if_pos found]
      dsimp only
      rw [List.drop_append_of_le_length short]
  · refine .same false ⟨text, flags, names⟩ ?_ fun more _ => ?_
    · rw [accept_run, if_neg found]
    · rw [accept_run, isPrefixOf_followed plain, if_neg found]

theorem accept_outer (word : String) {c : Char} {cs : List Char} (opens : word.toList = c :: cs)
    (parenthesis : c ≠ ')') (dollar : c ≠ '$') {reader : Reader} (outer : Outer reader.rest) :
    accept word reader = some (false, reader) := by
  rw [accept_run, opens]
  obtain ⟨_ | ⟨d, rest⟩, flags, names⟩ := reader
  · rfl
  · have other : (c == d) = false :=
      beq_eq_false_iff_ne.mpr (outer.ne (List.mem_cons_self ..) parenthesis dollar).symm
    rw [List.isPrefixOf_cons_cons, other]
    rfl

/-- Loops get fuel for the text that they are to read. -/
theorem Ahead.fuel {lost : α → Reader → Prop} {loop : Nat → Read α} {text : List Char}
    (steady : Steady loop) (loopAhead : ∀ fuel, Ahead lost (loop fuel) text) :
    Ahead lost (Read.fuel >>= loop) text := by
  intro flags names
  have alone : (Read.fuel >>= loop) ⟨text, flags, names⟩ =
      loop (text.length + 3) ⟨text, flags, names⟩ :=
    steady ⟨text, flags, names⟩ (Nat.lt_succ_self _) (by dsimp only; omega)
  have followed (more : List Char) (spent : Spent more) :
      (Read.fuel >>= loop) ⟨text ++ ')' :: more, flags, names⟩ =
        loop (text.length + 3) ⟨text ++ ')' :: more, flags, names⟩ := by
    refine steady ⟨text ++ ')' :: more, flags, names⟩ (Nat.lt_succ_self _) ?_
    have := spent.length_le
    simp only [List.length_append, List.length_cons, List.length_nil] at this ⊢
    omega
  exact (loopAhead (text.length + 3) flags names).congr alone followed

end BotConfig.Pattern.Read
