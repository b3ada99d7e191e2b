import BotConfig.Proofs.Forward

/-!
How much fuel reading a pattern takes.

A loop that takes a character at each turn does the same with all fuel that is more than the number
of characters left.
-/

namespace BotConfig.Pattern.Read

variable {α β σ : Type}

/-- All fuel that is more than the number of characters left gives the same. -/
def Steady (loop : Nat → Read α) : Prop :=
  ∀ ⦃fuel fuel' : Nat⦄ (reader : Reader), reader.rest.length < fuel → reader.rest.length < fuel' →
    loop fuel reader = loop fuel' reader

theorem Steady.bind {loop : Nat → Read α} (steady : Steady loop) (next : α → Read β) :
    Steady fun fuel => loop fuel >>= next := by
  intro fuel fuel' reader enough enough'
  dsimp only
  rw [bind_run, bind_run, steady reader enough enough']

theorem bind_agree_of {first first' : Read α} {next next' : α → Read β} {reader : Reader}
    (same : first reader = first' reader)
    (agree : ∀ result after, first' reader = some (result, after) →
      next result after = next' result after) :
    (first >>= next) reader = (first' >>= next') reader := by
  rw [bind_run, bind_run, same]
  refine Option.bind_congr fun found reads => ?_
  exact agree found.1 found.2 reads

theorem bind_agree {first : Read α} {next next' : α → Read β} {reader : Reader}
    (agree : ∀ result after, first reader = some (result, after) →
      next result after = next' result after) :
    (first >>= next) reader = (first >>= next') reader :=
  bind_agree_of rfl agree

/-- Loops with and without enough fuel agree where every turn leaves less. -/
theorem steady_of_turn (loop : Nat → σ → Read α)
    (turn : ∀ fuel fuel' state reader,
      (∀ state' after, after.rest.length < reader.rest.length →
        loop fuel state' after = loop fuel' state' after) →
      loop (fuel + 1) state reader = loop (fuel' + 1) state reader) (state : σ) :
    Steady fun fuel => loop fuel state := by
  intro fuel
  induction fuel generalizing state with
  | zero => exact fun _ _ enough => absurd enough (Nat.not_lt_zero _)
  | succ fuel inductionHypothesis =>
      intro fuel' reader enough enough'
      cases fuel' with
      | zero => exact absurd enough' (Nat.not_lt_zero _)
      | succ fuel' =>
          refine turn fuel fuel' state reader fun state' after less => ?_
          exact inductionHypothesis state' after (by omega) (by omega)

theorem Takes.less {step : Read α} (takes : Takes step) {reader between after : Reader} {c : Char}
    {result : α} (peeks : peek reader = some (c, between))
    (reads : step reader = some (result, after)) : after.rest.length < reader.rest.length := by
  have short := (takes reads).length_le
  obtain ⟨rest, flags, names⟩ := reader
  cases rest with
  | nil => cases peeks
  | cons first rest => exact Nat.lt_succ_of_le short

theorem steady_bracedHex (any : Bool) (code : Nat) :
    Steady fun fuel => bracedHex fuel any code := by
  refine steady_of_turn (fun fuel (state : Bool × Nat) => bracedHex fuel state.1 state.2)
    (fun fuel fuel' state reader agree => ?_) (any, code)
  refine bind_agree fun c after peeks => ?_
  cases stays_peek peeks
  split
  · rfl
  cases hexDigit? c with
  | some digit =>
      exact bind_agree fun _ between moves =>
        agree (true, _) between (takes_advanceBlanks.less peeks moves)
  | none => rfl

theorem steady_bracedName (done : List Char) : Steady fun fuel => bracedName fuel done := by
  refine steady_of_turn bracedName (fun fuel fuel' done reader agree => ?_) done
  refine bind_agree fun c after peeks => ?_
  cases stays_peek peeks
  split
  · rfl
  · exact bind_agree fun _ between moves =>
      agree _ between (takes_advanceBlanks.less peeks moves)

theorem steady_wordBoundary (done : List Char) : Steady fun fuel => wordBoundary fuel done := by
  refine steady_of_turn wordBoundary (fun fuel fuel' done reader agree => ?_) done
  refine bind_agree fun c after peeks => ?_
  cases stays_peek peeks
  split
  · exact bind_agree fun _ between moves =>
      agree _ between (takes_advanceBlanks.less peeks moves)
  · rfl

theorem steady_leadingHyphens (items : List SymbolSet) :
    Steady fun fuel => leadingHyphens fuel items := by
  refine steady_of_turn leadingHyphens (fun fuel fuel' items reader agree => ?_) items
  refine bind_agree fun c after peeks => ?_
  cases stays_peek peeks
  split
  · exact bind_agree fun _ between moves =>
      agree _ between (takes_advanceBlanks.less peeks moves)
  · rfl

theorem steady_flagItems (seen : List Char) (flags : Flags) :
    Steady fun fuel => flagItems fuel seen flags := by
  refine steady_of_turn
    (fun fuel (state : List Char × Flags) => flagItems fuel state.1 state.2)
    (fun fuel fuel' state reader agree => ?_) (seen, flags)
  refine bind_agree fun c after peeks => ?_
  cases stays_peek peeks
  split
  · rfl
  split
  · rfl
  split
  · exact bind_agree fun _ between moves =>
      agree (_, _) between (takes_advance.less peeks moves)
  cases Flags.set? state.2 c (!state.1.contains '-') with
  | some flags =>
      exact bind_agree fun _ between moves =>
        agree (_, _) between (takes_advance.less peeks moves)
  | none => rfl

theorem steady_groupName (done : List Char) : Steady fun fuel => groupName fuel done := by
  refine steady_of_turn groupName (fun fuel fuel' done reader agree => ?_) done
  have further {c : Char} (peeks : peek reader = some (c, reader)) (allowed : Bool) :
      (if allowed then do
          advance
          groupName fuel (c :: done)
        else failure) reader =
      (if allowed then do
          advance
          groupName fuel' (c :: done)
        else failure) reader := by
    split
    · exact bind_agree fun _ between moves => agree _ between (takes_advance.less peeks moves)
    · rfl
  refine bind_agree fun c after peeks => ?_
  cases stays_peek peeks
  split
  · rfl
  · exact further peeks _

theorem steady_countDigits (done : List Char) : Steady fun fuel => countDigits fuel done := by
  refine steady_of_turn countDigits (fun fuel fuel' done reader agree => ?_) done
  obtain ⟨_ | ⟨c, rest⟩, flags, names⟩ := reader
  · rfl
  refine bind_agree fun next after peeks => ?_
  cases peeks
  dsimp only [List.head?_cons]
  split
  · exact bind_agree fun _ between moves =>
      agree _ between (takes_advanceBlanks.less (peek_cons c rest flags names) moves)
  · rfl

theorem Shrinks.at_most {step : Read α} (shrinks : Shrinks step) {reader after : Reader}
    {result : α} {length : Nat} (reads : step reader = some (result, after))
    (short : reader.rest.length ≤ length) : after.rest.length ≤ length :=
  (shrinks reads).length_le.trans short

section

variable {further further' : Operand → Read SymbolSet} {length : Nat}
  (agree : ∀ operand reader, reader.rest.length ≤ length →
    further operand reader = further' operand reader)

include agree

theorem bracketItems_agree (negated : Bool) (first : List SymbolSet) {reader : Reader}
    (short : reader.rest.length ≤ length) :
    bracketItems further negated first reader = bracketItems further' negated first reader := by
  unfold bracketItems
  rw [bind_run, bind_run, agree _ _ short]

theorem bracketTail_agree (negated : Bool) (hyphens : List SymbolSet) {reader : Reader}
    (short : reader.rest.length ≤ length) :
    bracketTail further negated hyphens reader = bracketTail further' negated hyphens reader := by
  refine bind_agree fun c _ peeks => ?_
  cases stays_peek peeks
  split
  · refine bind_agree fun _ between moves => ?_
    have short := takes_advanceBlanks.shrinks.at_most moves short
    refine bind_agree fun _ _ peeks => ?_
    cases stays_peek peeks
    exact bracketItems_agree agree negated _ short
  · exact bracketItems_agree agree negated _ short

theorem bracketBody_agree (negated : Bool) {reader : Reader}
    (short : reader.rest.length ≤ length) :
    bracketBody further negated reader = bracketBody further' negated reader := by
  refine bind_agree fun _ _ measures => bind_agree fun hyphens after reads => ?_
  cases measures
  exact bracketTail_agree agree negated hyphens ((shrinks_leadingHyphens _ _).at_most reads short)

variable (operand : Operand)

theorem addedSet_agree {readSet readSet' : Read SymbolSet} {reader : Reader}
    (same : readSet reader = readSet' reader)
    (short : ∀ set after, readSet' reader = some (set, after) → after.rest.length ≤ length) :
    addedSet further operand readSet reader = addedSet further' operand readSet' reader :=
  bind_agree_of same fun set after reads => agree _ _ (short set after reads)

theorem nestedSet_agree {readBracketed readBracketed' : Read SymbolSet} {reader : Reader} {c : Char}
    (peeks : peek reader = some (c, reader)) (short : reader.rest.length ≤ length + 1)
    (bracketedTakes : Takes readBracketed') (same : readBracketed reader = readBracketed' reader) :
    nestedSet further operand readBracketed reader =
      nestedSet further' operand readBracketed' reader := by
  cases named : namedSetAt? reader.rest with
  | some found =>
      rw [nestedSet_named named, nestedSet_named named]
      refine addedSet_agree agree operand rfl fun set _ adjusts => ?_
      cases stays_adjusted _ _ adjusts
      have := (namedSetAt?_suffix named).length_le
      rw [List.length_tail] at this
      dsimp only
      omega
  | none =>
      rw [nestedSet_bracketed named, nestedSet_bracketed named]
      exact addedSet_agree agree operand same fun set _ reads =>
        Nat.le_of_lt_succ ((bracketedTakes.less peeks reads).trans_le short)

theorem joinedSet_agree {reader : Reader} {c : Char} (peeks : peek reader = some (c, reader))
    (short : reader.rest.length ≤ length + 1) :
    joinedSet further operand reader = joinedSet further' operand reader := by
  have operation {text : String} (present : text ≠ "") (operation : SetOperation)
      {after : Reader} (reads : accept text reader = some (true, after)) :
      (do further ⟨some (operation, ← operand.close), []⟩) after =
      (do further' ⟨some (operation, ← operand.close), []⟩) after := by
    refine bind_agree fun set _ closes => ?_
    cases stays_close _ closes
    exact agree _ _ (Nat.le_of_lt_succ ((accept_less present reads).trans_le short))
  refine bind_agree fun intersects _ reads => ?_
  cases intersects with
  | true => exact operation (by decide) _ reads
  | false =>
  cases accept_false reads
  refine bind_agree fun subtracts _ reads => ?_
  cases subtracts with
  | true => exact operation (by decide) _ reads
  | false =>
  cases accept_false reads
  refine bind_agree fun differs _ reads => ?_
  cases differs with
  | true => exact operation (by decide) _ reads
  | false =>
  cases accept_false reads
  exact addedSet_agree agree operand rfl fun set _ reads =>
    Nat.le_of_lt_succ ((takes_setRange.less peeks reads).trans_le short)

end

theorem bracketed_agree {length fuel fuel' : Nat}
    (agree : ∀ operand reader, reader.rest.length ≤ length →
      setItems operand fuel reader = setItems operand fuel' reader)
    {reader : Reader} (short : reader.rest.length ≤ length + 1) :
    bracketed (fuel + 1) reader = bracketed (fuel' + 1) reader := by
  rw [bracketed_succ, bracketed_succ]
  refine bind_agree fun _ after moves => ?_
  have short : after.rest.length ≤ length := by
    have := (takes_advanceBlanks moves).length_le
    rw [List.length_tail] at this
    omega
  refine bind_agree fun c _ peeks => ?_
  cases stays_peek peeks
  split
  · exact bind_agree fun _ between moves =>
      bracketBody_agree agree _ (takes_advanceBlanks.shrinks.at_most moves short)
  · exact bracketBody_agree agree _ short

theorem setItems_agree {length fuel fuel' : Nat}
    (agree : ∀ operand reader, reader.rest.length ≤ length →
      setItems operand fuel reader = setItems operand fuel' reader)
    (bracketsAgree : ∀ reader, reader.rest.length ≤ length + 1 →
      bracketed fuel reader = bracketed fuel' reader)
    (operand : Operand) {reader : Reader} (short : reader.rest.length ≤ length + 1) :
    setItems operand (fuel + 1) reader = setItems operand (fuel' + 1) reader := by
  rw [setItems_succ, setItems_succ]
  refine bind_agree fun _ reader blanks => bind_agree fun c _ peeks => ?_
  have short := shrinks_skipBlanks.at_most blanks short
  cases stays_peek peeks
  split
  · exact nestedSet_agree agree operand peeks short (bracketed_setItems_shrinks fuel').1
      (bracketsAgree _ short)
  split
  · rfl
  · exact joinedSet_agree agree operand peeks short

theorem bracketed_nil (fuel : Nat) (flags : Flags) (names : List String) :
    bracketed fuel ⟨[], flags, names⟩ = none := by
  cases fuel with
  | zero => rfl
  | succ fuel =>
      rw [bracketed_succ, bind_run, advanceBlanks_run, skipBlanks_run]
      cases flags.verbose <;> rfl

theorem setItems_nil (operand : Operand) (fuel : Nat) (flags : Flags) (names : List String) :
    setItems operand fuel ⟨[], flags, names⟩ = none := by
  cases fuel with
  | zero => rfl
  | succ fuel =>
      unfold setItems
      rw [bind_run, skipBlanks_run]
      cases flags.verbose <;> rfl

/-- Each bracket is read with one unit of fuel for itself and one for its items. -/
theorem bracketed_setItems_agree (length : Nat) {fuel fuel' : Nat} :
    (2 * length ≤ fuel → 2 * length ≤ fuel' → ∀ reader, reader.rest.length ≤ length →
      bracketed fuel reader = bracketed fuel' reader) ∧
    (2 * length < fuel → 2 * length < fuel' → ∀ operand reader, reader.rest.length ≤ length →
      setItems operand fuel reader = setItems operand fuel' reader) := by
  induction length generalizing fuel fuel' with
  | zero =>
      refine ⟨fun _ _ reader short => ?_, fun enough enough' operand reader short => ?_⟩
      all_goals
        obtain ⟨rest, flags, names⟩ := reader
        cases List.length_eq_zero_iff.mp (Nat.le_zero.mp short)
      · rw [bracketed_nil, bracketed_nil]
      · rw [setItems_nil, setItems_nil]
  | succ length inductionHypothesis =>
      have brackets {fuel fuel' : Nat} (enough : 2 * (length + 1) ≤ fuel)
          (enough' : 2 * (length + 1) ≤ fuel') (reader : Reader)
          (short : reader.rest.length ≤ length + 1) :
          bracketed fuel reader = bracketed fuel' reader := by
        obtain ⟨fuel, rfl⟩ := Nat.exists_eq_add_one.mpr (show 0 < fuel by omega)
        obtain ⟨fuel', rfl⟩ := Nat.exists_eq_add_one.mpr (show 0 < fuel' by omega)
        exact bracketed_agree
          (inductionHypothesis.2 (by omega) (by omega)) short
      refine ⟨brackets, fun enough enough' operand reader short => ?_⟩
      obtain ⟨fuel, rfl⟩ := Nat.exists_eq_add_one.mpr (show 0 < fuel by omega)
      obtain ⟨fuel', rfl⟩ := Nat.exists_eq_add_one.mpr (show 0 < fuel' by omega)
      exact setItems_agree (inductionHypothesis.2 (by omega) (by omega))
        (brackets (by omega) (by omega)) operand short

theorem steady_bracketed : Steady fun fuel => bracketed (2 * fuel) := by
  intro fuel fuel' reader enough enough'
  exact (bracketed_setItems_agree reader.rest.length).1 (by omega) (by omega) reader le_rfl

section

variable {further further' : List Expression → List Expression → Read Expression} {length : Nat}
  (agree : ∀ items branches reader, reader.rest.length < length →
    further items branches reader = further' items branches reader)
  (items branches : List Expression)

include agree

theorem repeatedItem_agree (least : Nat) (most : Option Nat) {reader : Reader}
    (short : reader.rest.length < length) :
    repeatedItem further items branches least most reader =
      repeatedItem further' items branches least most reader := by
  refine bind_agree fun items _ repeats => ?_
  cases stays_repeatLast _ _ _ repeats
  exact agree _ _ _ short

theorem repeatedBySign_agree (least : Nat) (most : Option Nat) {reader : Reader}
    (short : ∀ after, advance reader = some ((), after) → after.rest.length < length) :
    repeatedBySign further items branches least most reader =
      repeatedBySign further' items branches least most reader := by
  refine bind_agree fun _ after moves => bind_agree fun _ between skips => ?_
  exact repeatedItem_agree agree items branches least most
    ((shrinks_skipLazy skips).length_le.trans_lt (short after moves))

theorem afterHead_agree (furtherShrinks : ∀ items branches, Shrinks (further' items branches))
    (before : Flags) (head : GroupHead) {reader : Reader} (short : reader.rest.length < length) :
    afterHead further items branches before head reader =
      afterHead further' items branches before head reader := by
  cases head with
  | setting flags => exact agree _ _ _ short
  | opening captures flags =>
      refine bind_agree fun _ _ changes => ?_
      cases changes
      refine bind_agree_of (agree _ _ _ short) fun body between reads => ?_
      refine bind_agree fun next _ peeks => ?_
      cases stays_peek? peeks
      split
      · rfl
      refine bind_agree fun _ _ changes => ?_
      cases changes
      refine bind_agree fun _ _ moves => ?_
      cases moves
      refine agree _ _ _ (lt_of_le_of_lt ?_ short)
      exact (List.tail_suffix _).length_le.trans (furtherShrinks _ _ reads).length_le

end

theorem nextItem_agree {further further' : List Expression → List Expression → Read Expression}
    {reader : Reader}
    (agree : ∀ items branches after, after.rest.length < reader.rest.length →
      further items branches after = further' items branches after)
    (furtherShrinks : ∀ items branches, Shrinks (further' items branches))
    (items branches : List Expression) {next : Option Char}
    (peeks : peek? reader = some (next, reader)) :
    nextItem further items branches next reader = nextItem further' items branches next reader := by
  have less {γ : Type} {step : Read γ} (takes : Takes step) {c : Char} {after : Reader}
      {result : γ} (peeks : peek? reader = some (some c, reader))
      (reads : step reader = some (result, after)) : after.rest.length < reader.rest.length :=
    takes.less (peek_of_peek? peeks) reads
  have bySign (least : Nat) (most : Option Nat) {c : Char}
      (peeks : peek? reader = some (some c, reader)) :=
    repeatedBySign_agree agree items branches least most fun _ moves =>
      less takes_advance peeks moves
  unfold nextItem
  split
  · rfl
  · rfl
  · refine bind_agree fun before _ reads => ?_
    cases stays_flags reads
    exact bind_agree fun head _ reads => afterHead_agree agree items branches furtherShrinks
      before head (less takes_groupHead peeks reads)
  · exact bind_agree fun _ _ moves => agree _ _ _ (less takes_advance peeks moves)
  · refine bind_agree fun _ _ measures => ?_
    cases measures
    exact bind_agree fun set _ reads =>
      agree _ _ _ (less (bracketed_setItems_shrinks _).1 peeks reads)
  · exact bySign _ _ peeks
  · exact bySign _ _ peeks
  · exact bySign _ _ peeks
  · exact bind_agree fun times _ reads => repeatedItem_agree agree items branches _ _
      (less takes_countedTimes peeks reads)
  · exact bind_agree fun item _ reads => agree _ _ _ (less takes_primitive peeks reads)

theorem steady_alternatives (items branches : List Expression) :
    Steady fun fuel => alternatives items branches fuel := by
  refine steady_of_turn
    (fun fuel (state : List Expression × List Expression) => alternatives state.1 state.2 fuel)
    (fun fuel fuel' state reader agree => ?_) (items, branches)
  rw [alternatives_succ, alternatives_succ]
  refine bind_agree fun _ middle blanks => bind_agree fun next _ peeks => ?_
  have short := (shrinks_skipBlanks blanks).length_le
  cases stays_peek? peeks
  exact nextItem_agree
    (fun items branches after less => agree (items, branches) after (less.trans_le short))
    (fun _ _ => shrinks_alternatives _ _ _) _ _ peeks

end BotConfig.Pattern.Read
