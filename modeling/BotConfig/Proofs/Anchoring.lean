import BotConfig.Pair
import BotConfig.Proofs.Parentheses

/-!
Patterns stand for whole symbols.

A pattern is read in front of a closing parenthesis, so it is read as it is alone unless it closes
that parenthesis itself, or a comment at its end takes it.  It then matches what it matches alone
from the first character to the last.
-/

namespace BotConfig.Pattern

open Read

/-! ### Matches end inside a text -/

/-- Every step from a place in a text leads to a place in it. -/
def StaysInside (step : Nat → List Nat) (length : Nat) : Prop :=
  ∀ place ≤ length, ∀ reached ∈ step place, reached ≤ length

namespace Expression

theorem mem_stepAll {step : Nat → List Nat} {places : List Nat} {reached : Nat} :
    reached ∈ stepAll step places ↔ ∃ place ∈ places, reached ∈ step place := by
  rw [stepAll, List.mem_eraseDups, List.mem_flatMap]

theorem stepAll_inside {step : Nat → List Nat} {length : Nat} (inside : StaysInside step length)
    {places : List Nat} (start : ∀ place ∈ places, place ≤ length) :
    ∀ reached ∈ stepAll step places, reached ≤ length := by
  intro reached member
  obtain ⟨place, placeMember, reachedMember⟩ := mem_stepAll.mp member
  exact inside place (start place placeMember) reached reachedMember

theorem stepTimes_inside {step : Nat → List Nat} {length : Nat} (inside : StaysInside step length)
    (count : Nat) {places : List Nat} (start : ∀ place ∈ places, place ≤ length) :
    ∀ reached ∈ stepTimes step count places, reached ≤ length := by
  induction count generalizing places with
  | zero => exact start
  | succ count inductionHypothesis =>
      unfold stepTimes
      dsimp only
      split
      · exact start
      · exact inductionHypothesis (stepAll_inside inside start)

theorem stepUpTo_inside {step : Nat → List Nat} {length : Nat} (inside : StaysInside step length)
    (count : Nat) {places : List Nat} (start : ∀ place ∈ places, place ≤ length) :
    ∀ reached ∈ stepUpTo step count places, reached ≤ length := by
  induction count generalizing places with
  | zero => exact start
  | succ count inductionHypothesis =>
      unfold stepUpTo
      dsimp only
      split
      · exact start
      · refine inductionHypothesis fun place member => ?_
        rcases List.mem_append.mp (List.mem_eraseDups.mp member) with old | new
        · exact start place old
        · exact stepAll_inside inside start place new

mutual

theorem ends_inside (text : List Char) :
    ∀ expression : Expression, StaysInside (expression.ends text) text.length
  | .setting => by
      intro place within reached member
      rw [ends, List.mem_singleton] at member
      exact member ▸ within
  | .symbol set => by
      intro place within reached member
      unfold ends at member
      split at member
      · rename_i c found
        split at member
        · cases List.mem_singleton.mp member
          exact (List.getElem?_eq_some_iff.mp found).1
        · cases member
      · cases member
  | .assertion condition => by
      intro place within reached member
      unfold ends at member
      split at member
      · exact List.mem_singleton.mp member ▸ within
      · cases member
  | .group captures body => by
      intro place within reached member
      unfold ends at member
      exact ends_inside text body place within reached member
  | .repeated body least most => by
      intro place within reached member
      unfold ends at member
      refine stepUpTo_inside (ends_inside text body) _ ?_ reached member
      refine stepTimes_inside (ends_inside text body) _ fun start found => ?_
      exact List.mem_singleton.mp found ▸ within
  | .sequence items => by
      intro place within reached member
      unfold ends at member
      exact endsInTurn_inside text items place within reached member
  | .choice items => by
      intro place within reached member
      unfold ends at member
      exact endsOfAny_inside text items place within reached member

theorem endsInTurn_inside (text : List Char) :
    ∀ items : List Expression, StaysInside (endsInTurn text items) text.length
  | [] => by
      intro place within reached member
      rw [endsInTurn, List.mem_singleton] at member
      exact member ▸ within
  | item :: rest => by
      intro place within reached member
      unfold endsInTurn at member
      exact stepAll_inside (endsInTurn_inside text rest)
        (ends_inside text item place within) reached member

theorem endsOfAny_inside (text : List Char) :
    ∀ items : List Expression, StaysInside (endsOfAny text items) text.length
  | [] => by
      intro place within reached member
      cases member
  | item :: rest => by
      intro place within reached member
      unfold endsOfAny at member
      rcases List.mem_append.mp (List.mem_eraseDups.mp member) with first | other
      · exact ends_inside text item place within reached first
      · exact endsOfAny_inside text rest place within reached other

end

/-- An expression between the start and the end of a text. -/
def wholly (expression : Expression) : Expression :=
  .sequence [.assertion .textStart, .group false expression, .assertion .textEnd]

@[simp]
theorem depth_wholly (expression : Expression) :
    expression.wholly.depth = expression.depth + 2 := by
  simp [wholly, depth, greatestDepth]

/-- Whether an expression matches a text from its first character to its last. -/
def MatchesWhole (expression : Expression) (text : List Char) : Prop :=
  text.length ∈ expression.ends text 0

theorem mem_ends_assertion {condition : Assertion} {text : List Char} {place reached : Nat} :
    reached ∈ (Expression.assertion condition).ends text place ↔
      condition.holds text place = true ∧ reached = place := by
  unfold ends
  split
  · simp [*]
  · simp [*]

theorem mem_endsInTurn_cons {text : List Char} {item : Expression} {rest : List Expression}
    {place reached : Nat} : reached ∈ endsInTurn text (item :: rest) place ↔
      ∃ between ∈ item.ends text place, reached ∈ endsInTurn text rest between := by
  rw [endsInTurn, mem_stepAll]

theorem mem_endsInTurn_nil {text : List Char} {place reached : Nat} :
    reached ∈ endsInTurn text [] place ↔ reached = place := by
  rw [endsInTurn, List.mem_singleton]

theorem ends_group (captures : Bool) (body : Expression) (text : List Char) (place : Nat) :
    (Expression.group captures body).ends text place = body.ends text place := by
  rw [ends]

theorem textStart_holds {text : List Char} {place : Nat} (inside : place ≤ text.length) :
    Assertion.textStart.holds text place = true ↔ place = 0 := by
  cases place with
  | zero => exact iff_of_true rfl rfl
  | succ place =>
      refine iff_of_false ?_ (Nat.succ_ne_zero _)
      simp [Assertion.holds, Assertion.holdsBetween, Nat.lt_of_succ_le inside]

theorem textEnd_holds {text : List Char} {place : Nat} :
    Assertion.textEnd.holds text place = true ↔ text.length ≤ place := by
  simp [Assertion.holds, Assertion.holdsBetween]

theorem mem_ends_wholly {expression : Expression} {text : List Char} {place reached : Nat}
    (inside : place ≤ text.length) : reached ∈ expression.wholly.ends text place ↔
      place = 0 ∧ reached ∈ expression.ends text 0 ∧ text.length ≤ reached := by
  rw [wholly, ends, mem_endsInTurn_cons]
  constructor
  · rintro ⟨start, startMember, member⟩
    obtain ⟨starts, rfl⟩ := mem_ends_assertion.mp startMember
    cases (textStart_holds inside).mp starts
    obtain ⟨last, lastMember, member⟩ := mem_endsInTurn_cons.mp member
    obtain ⟨final, finalMember, member⟩ := mem_endsInTurn_cons.mp member
    cases mem_endsInTurn_nil.mp member
    obtain ⟨ends, rfl⟩ := mem_ends_assertion.mp finalMember
    exact ⟨rfl, ends_group false .. ▸ lastMember, textEnd_holds.mp ends⟩
  · rintro ⟨rfl, member, final⟩
    refine ⟨0, mem_ends_assertion.mpr ⟨(textStart_holds inside).mpr rfl, rfl⟩, ?_⟩
    refine mem_endsInTurn_cons.mpr ⟨reached, (ends_group false ..).symm ▸ member, ?_⟩
    exact mem_endsInTurn_cons.mpr
      ⟨reached, mem_ends_assertion.mpr ⟨textEnd_holds.mpr final, rfl⟩, mem_endsInTurn_nil.mpr rfl⟩

theorem isFoundIn_iff (expression : Expression) (text : List Char) :
    expression.isFoundIn text = true ↔
      ∃ place ≤ text.length, ∃ reached, reached ∈ expression.ends text place := by
  rw [isFoundIn, List.any_eq_true]
  simp only [List.mem_range, Nat.lt_succ_iff, Bool.not_eq_true',
    List.isEmpty_eq_false_iff_exists_mem]

theorem isFoundIn_wholly (expression : Expression) (text : List Char) :
    expression.wholly.isFoundIn text = true ↔ expression.MatchesWhole text := by
  rw [isFoundIn_iff]
  constructor
  · rintro ⟨place, inside, reached, member⟩
    obtain ⟨-, member, final⟩ := (mem_ends_wholly inside).mp member
    cases le_antisymm final (ends_inside text expression 0 (Nat.zero_le _) reached member)
    exact member
  · intro whole
    exact ⟨0, Nat.zero_le _, text.length,
      (mem_ends_wholly (Nat.zero_le _)).mpr ⟨rfl, whole, le_rfl⟩⟩

end Expression

/-! ### Reading a pattern alone -/

/-- What is read of a text that stands alone. -/
def readAlone (text : List Char) : Option (Expression × Reader) :=
  alternatives [] [] (text.length + 1) ⟨text, .initial, []⟩

/-- A text is read as an expression. -/
def StandsAlone (text : List Char) (expression : Expression) : Prop :=
  ∃ reader, readAlone text = some (expression, reader) ∧ reader.rest = []

/-- A text closes a parenthesis that it has not opened. -/
def ClosesEarly (text : List Char) : Prop :=
  (readAlone text).any (fun found => !found.2.rest.isEmpty) = true

/-- A comment at the end of a text takes a closing parenthesis behind it. -/
def CommentOpen (text : List Char) : Prop :=
  (readAlone (text ++ [')'])).any (fun found => found.2.rest.isEmpty) = true

instance (text : List Char) : Decidable (ClosesEarly text) := inferInstanceAs (Decidable (_ = _))

instance (text : List Char) : Decidable (CommentOpen text) := inferInstanceAs (Decidable (_ = _))

theorem readAlone_followed (text : List Char) :
    Keeps (fun _ after => after.rest = []) (readAlone text)
      fun more => readAlone (text ++ ')' :: more) := by
  refine (ahead_alternatives [] [] (text.length + 3) text .initial []).congr ?_ fun more spent => ?_
  · refine steady_alternatives [] [] _ ?_ ?_ <;> dsimp only <;> omega
  · have short := spent.length_le
    rw [List.length_singleton] at short
    refine steady_alternatives [] [] _ ?_ ?_
    all_goals
      simp only [List.length_append, List.length_cons]
      omega

/-- What follows the body of the group that a pattern stands in. -/
def afterBody (body : Expression) (fuel : Nat) : Read Expression := do
  if (← peek?) != some ')' then failure
  modify fun reader => { reader with flags := .initial }
  advance
  alternatives [.group false body, .assertion .textStart] [] fuel

theorem opening_run (text : List Char) (fuel : Nat) :
    alternatives [] [] (fuel + 2) ⟨'^' :: '(' :: '?' :: ':' :: text, .initial, []⟩ = (do
      let body ← alternatives [] [] fuel
      afterBody body fuel : Read Expression) ⟨text, .initial, []⟩ := rfl

theorem anchored_run (text : List Char) :
    readAlone (anchored text) = (readAlone (text ++ [')', '$'])).bind fun found =>
      afterBody found.1 (text.length + 5) found.2 := by
  have opened : anchored text = '^' :: '(' :: '?' :: ':' :: (text ++ [')', '$']) := rfl
  have long : (anchored text).length + 1 = text.length + 5 + 2 := by
    simp [opened]
  rw [readAlone, long, opened, opening_run, bind_run]
  refine congrArg (Option.bind · _) (steady_alternatives [] [] _ ?_ ?_)
  all_goals
    simp only [List.length_append, List.length_cons, List.length_nil]
    omega

theorem afterBody_closing (body : Expression) (fuel : Nat) (flags : Flags) (names : List String) :
    afterBody body (fuel + 2) ⟨[')', '$'], flags, names⟩ =
      some (body.wholly, ⟨[], .initial, names⟩) := rfl

theorem afterBody_nil (body : Expression) (fuel : Nat) (flags : Flags) (names : List String) :
    afterBody body fuel ⟨[], flags, names⟩ = none := rfl

theorem Expression.ofText?_eq_some_iff {text : List Char} {expression : Expression} :
    Expression.ofText? text = some expression ↔
      StandsAlone text expression ∧ expression.depth ≤ depthLimit ∧
        expression.weight ≤ weightLimit := by
  have reads : Expression.ofText? text = (readAlone text).bind fun found =>
      if found.2.rest.isEmpty && found.1.depth ≤ depthLimit && found.1.weight ≤ weightLimit then
        some found.1
      else none := rfl
  rw [reads, StandsAlone, Option.bind_eq_some_iff]
  constructor
  · rintro ⟨⟨found, reader⟩, alone, limited⟩
    rw [Option.ite_none_right_eq_some, Bool.and_eq_true, Bool.and_eq_true, List.isEmpty_iff,
      decide_eq_true_eq, decide_eq_true_eq] at limited
    obtain ⟨⟨⟨ended, shallow⟩, light⟩, ⟨⟩⟩ := limited
    exact ⟨⟨reader, alone, ended⟩, shallow, light⟩
  · rintro ⟨⟨reader, alone, ended⟩, shallow, light⟩
    refine ⟨(expression, reader), alone, ?_⟩
    simp [ended, shallow, light]

theorem closesEarly_iff {text : List Char} {body : Expression} {reader : Reader}
    (alone : readAlone text = some (body, reader)) : ClosesEarly text ↔ reader.rest ≠ [] := by
  simp [ClosesEarly, alone]

theorem commentOpen_iff {text : List Char} {body : Expression} {reader : Reader}
    (alone : readAlone (text ++ [')']) = some (body, reader)) :
    CommentOpen text ↔ reader.rest = [] := by
  simp [CommentOpen, alone]

theorem standsAlone_iff {text : List Char} {body expression : Expression} {reader : Reader}
    (alone : readAlone text = some (body, reader)) (ended : reader.rest = []) :
    StandsAlone text expression ↔ expression = body := by
  constructor
  · rintro ⟨other, alone', -⟩
    cases alone.symm.trans alone'
    rfl
  · rintro rfl
    exact ⟨reader, alone, ended⟩

theorem StandsAlone.unique {text : List Char} {body other : Expression}
    (alone : StandsAlone text body) (alone' : StandsAlone text other) : body = other := by
  obtain ⟨reader, read, ended⟩ := alone
  exact ((standsAlone_iff read ended).mp alone').symm

theorem StandsAlone.not_closesEarly {text : List Char} {body : Expression}
    (alone : StandsAlone text body) : ¬ ClosesEarly text := by
  obtain ⟨reader, read, ended⟩ := alone
  exact fun closes => (closesEarly_iff read).mp closes ended

theorem not_standsAlone {text : List Char} (expression : Expression)
    (nothing : readAlone text = none) : ¬ StandsAlone text expression := by
  rintro ⟨reader, alone, -⟩
  cases nothing.symm.trans alone

theorem standsAlone_anchored_iff {text : List Char} (closes : ¬ ClosesEarly text)
    {expression : Expression} : StandsAlone (anchored text) expression ↔
      ∃ body, StandsAlone text body ∧ ¬ CommentOpen text ∧ expression = body.wholly := by
  have dollar : Spent ['$'] := List.suffix_refl _
  have nothing : Spent [] := List.nil_suffix
  cases readAlone_followed text with
  | same body reader alone left =>
      obtain ⟨rest, flags, names⟩ := reader
      cases not_not.mp ((closesEarly_iff alone).not.mp closes)
      have read : readAlone (anchored text) = some (body.wholly, ⟨[], .initial, names⟩) := by
        rw [anchored_run, left _ dollar]
        exact afterBody_closing body (text.length + 3) flags names
      have shut : ¬ CommentOpen text := by
        rw [commentOpen_iff (left _ nothing)]
        exact List.cons_ne_nil _ _
      rw [standsAlone_iff read rfl]
      simp [standsAlone_iff alone rfl, shut]
  | swallowed body reader alone gone =>
      obtain ⟨rest, flags, names⟩ := reader
      cases not_not.mp ((closesEarly_iff alone).not.mp closes)
      have read : readAlone (anchored text) = none := by
        rw [anchored_run, gone _ dollar]
        exact afterBody_nil body _ flags names
      have commented : CommentOpen text := (commentOpen_iff (gone _ nothing)).mpr rfl
      refine iff_of_false (not_standsAlone expression read) ?_
      rintro ⟨_, _, shut, _⟩
      exact shut commented
  | lost alone ends =>
      have read : readAlone (anchored text) = none := by
        rw [anchored_run]
        cases followed : readAlone (text ++ [')', '$']) with
        | none => rfl
        | some found =>
            obtain ⟨body, rest, flags, names⟩ := found
            cases ends _ dollar body _ followed
            exact afterBody_nil body _ flags names
      refine iff_of_false (not_standsAlone expression read) ?_
      rintro ⟨body, stands, _, _⟩
      exact not_standsAlone body alone stands

/-! ### Patterns of pairs -/

theorem ofText?_eq_some_iff {text : String} (closes : ¬ ClosesEarly text.toList)
    {pattern : Pattern} : ofText? text = some pattern ↔
      ∃ body, StandsAlone text.toList body ∧ ¬ CommentOpen text.toList ∧
        body.depth + 2 ≤ depthLimit ∧ body.wholly.weight ≤ weightLimit ∧
        pattern = ⟨body.wholly⟩ := by
  rw [ofText?, Option.map_eq_some_iff]
  constructor
  · rintro ⟨expression, reads, rfl⟩
    obtain ⟨stands, shallow, light⟩ := Expression.ofText?_eq_some_iff.mp reads
    obtain ⟨body, alone, shut, rfl⟩ := (standsAlone_anchored_iff closes).mp stands
    exact ⟨body, alone, shut, by rwa [Expression.depth_wholly] at shallow, light, rfl⟩
  · rintro ⟨body, alone, shut, shallow, light, rfl⟩
    refine ⟨body.wholly, Expression.ofText?_eq_some_iff.mpr ⟨?_, ?_, light⟩, rfl⟩
    · exact (standsAlone_anchored_iff closes).mpr ⟨body, alone, shut, rfl⟩
    · rwa [Expression.depth_wholly]

/-- A pattern that does not close the parenthesis it is put in can be used exactly if it is a
pattern alone, with no comment open at its end and room for two more levels.  It then matches the
pairs whose whole symbols it matches alone. -/
theorem stands_for_whole_symbols (text : String) :
    ((∃ pattern, ofText? text = some pattern) ∧ ¬ ClosesEarly text.toList ↔
      ∃ body, StandsAlone text.toList body ∧ ¬ CommentOpen text.toList ∧
        body.depth + 2 ≤ depthLimit ∧ body.wholly.weight ≤ weightLimit) ∧
    ∀ pattern body, ofText? text = some pattern → StandsAlone text.toList body →
      ∀ pair : Pair, pattern.accepts pair.text = true ↔ body.MatchesWhole pair.text.toList := by
  refine ⟨⟨?_, ?_⟩, ?_⟩
  · rintro ⟨⟨pattern, reads⟩, closes⟩
    obtain ⟨body, alone, shut, shallow, light, -⟩ := (ofText?_eq_some_iff closes).mp reads
    exact ⟨body, alone, shut, shallow, light⟩
  · rintro ⟨body, alone, shut, shallow, light⟩
    have closes := alone.not_closesEarly
    exact ⟨⟨_, (ofText?_eq_some_iff closes).mpr ⟨body, alone, shut, shallow, light, rfl⟩⟩, closes⟩
  · intro pattern body reads alone pair
    obtain ⟨other, alone', -, -, -, rfl⟩ := (ofText?_eq_some_iff alone.not_closesEarly).mp reads
    cases alone.unique alone'
    exact Expression.isFoundIn_wholly body pair.text.toList

theorem stands_for_whole_symbols_bitcoin :
    (∃ pattern, ofText? "BTC/.*" = some pattern) ∧
    ∀ pattern, ofText? "BTC/.*" = some pattern →
      pattern.accepts (Pair.text ⟨"BTC", "USDT", none⟩) = true ∧
      ¬ pattern.accepts (Pair.text ⟨"WBTC", "USDT", none⟩) = true := by
  obtain ⟨⟨body, reader⟩, read⟩ := Option.isSome_iff_exists.mp
    (show (readAlone "BTC/.*".toList).isSome = true by decide +kernel)
  have facts : (readAlone "BTC/.*".toList).all (fun found =>
      found.2.rest.isEmpty && decide (found.1.depth + 2 ≤ depthLimit) &&
      decide (found.1.wholly.weight ≤ weightLimit) &&
      decide (8 ∈ found.1.ends "BTC/USDT".toList 0) &&
      !decide (9 ∈ found.1.ends "WBTC/USDT".toList 0)) = true := by decide +kernel
  rw [read] at facts
  simp only [Option.all_some, Bool.and_eq_true, List.isEmpty_iff, decide_eq_true_eq,
    Bool.not_eq_true', decide_eq_false_iff_not] at facts
  obtain ⟨⟨⟨⟨ended, shallow⟩, light⟩, whole⟩, unlike⟩ := facts
  have alone : StandsAlone "BTC/.*".toList body := ⟨reader, read, ended⟩
  have shut : ¬ CommentOpen "BTC/.*".toList := by decide +kernel
  obtain ⟨readable, matching⟩ := stands_for_whole_symbols "BTC/.*"
  refine ⟨(readable.mpr ⟨body, alone, shut, shallow, light⟩).1, fun pattern reads => ⟨?_, ?_⟩⟩
  · exact (matching pattern body reads alone _).mpr whole
  · exact (matching pattern body reads alone _).not.mpr unlike

/-- A pattern that is none alone can be read all the same, and one that is a pattern alone can be
refused. -/
theorem read_though_not_alone :
    (ofText? "BTC/USDT)|(?:X").isSome = true ∧
    (Expression.ofText? "BTC/USDT)|(?:X".toList).isSome = false ∧
    (ofText? "(?x)ETH/.* # majors").isSome = false ∧
    (Expression.ofText? "(?x)ETH/.* # majors".toList).isSome = true := by
  decide +kernel

end BotConfig.Pattern
