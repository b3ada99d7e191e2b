import BotConfig.Proofs.Sections

/-!
How pairs are spelled.

A text is cut at its first slash and its first colon before any character is looked at.  Neither of
them can be part of a symbol, so what is read is nevertheless exactly `BASE/QUOTE` and
`BASE/QUOTE:SETTLE`, each pair has one spelling, and a text that is refused is refused for the first
of its parts that is no symbol.
-/

namespace BotConfig.Pair

/-! ### Symbols -/

/-- The characters of symbols: letters and digits of ASCII, and three marks. -/
def SymbolChar (c : Char) : Prop :=
  ('A' ≤ c ∧ c ≤ 'Z') ∨ ('a' ≤ c ∧ c ≤ 'z') ∨ ('0' ≤ c ∧ c ≤ '9') ∨ c = '-' ∨ c = '_' ∨ c = '.'

theorem isSymbolChar_eq_true_iff (c : Char) : isSymbolChar c = true ↔ SymbolChar c := by
  have upper : c.isUpper = decide ('A'.val ≤ c.val ∧ c.val ≤ 'Z'.val) := rfl
  have lower : c.isLower = (decide ('a'.val ≤ c.val) && decide (c.val ≤ 'z'.val)) := rfl
  have digit : c.isDigit = (decide ('0'.val ≤ c.val) && decide (c.val ≤ '9'.val)) := rfl
  have alphanumeric : c.isAlphanum = (c.isUpper || c.isLower || c.isDigit) := rfl
  simp only [isSymbolChar, SymbolChar, alphanumeric, upper, lower, digit, Char.le_def,
    Bool.or_eq_true, Bool.and_eq_true, decide_eq_true_eq, beq_iff_eq, or_assoc]

/-- What stands for a currency in a pair. -/
structure IsSymbol (symbol : String) : Prop where
  nonempty : symbol ≠ ""
  chars : ∀ c ∈ symbol.toList, SymbolChar c

/-- Why a part of a text is no symbol: it is empty, or it has a first character that does not belong
into symbols. -/
inductive Flaw (role : Role) (symbol : String) : PairFault → Prop
  | empty : symbol = "" → Flaw role symbol (.emptySymbol role)
  | character {before after : List Char} {c : Char} :
      symbol.toList = before ++ c :: after →
      (∀ earlier ∈ before, SymbolChar earlier) →
      ¬ SymbolChar c →
      Flaw role symbol (.invalidCharacter c)

theorem IsSymbol.notMem {symbol : String} (isSymbol : IsSymbol symbol) {c : Char}
    (outside : isSymbolChar c = false) : c ∉ symbol.toList := by
  intro membership
  have inside := (isSymbolChar_eq_true_iff c).mpr (isSymbol.chars c membership)
  simp [outside] at inside

theorem checkSymbol_eq_ok_iff (role : Role) (symbol : String) :
    checkSymbol role symbol.toList = .ok () ↔ IsSymbol symbol := by
  have inside : symbol.toList.find? (!isSymbolChar ·) = none ↔
      ∀ c ∈ symbol.toList, SymbolChar c := by
    simp [isSymbolChar_eq_true_iff]
  unfold checkSymbol
  constructor
  · intro passes
    split at passes
    · cases passes
    · rename_i filled
      split at passes
      · cases passes
      · rename_i noOther
        exact ⟨by simpa using filled, inside.mp noOther⟩
  · intro isSymbol
    simp [isSymbol.nonempty, inside.mpr isSymbol.chars]

theorem checkSymbol_eq_error_iff (role : Role) (symbol : String) (fault : PairFault) :
    checkSymbol role symbol.toList = .error fault ↔ Flaw role symbol fault := by
  unfold checkSymbol
  constructor
  · intro fails
    split at fails
    · rename_i empty
      cases fails
      exact .empty (by simpa using empty)
    · split at fails
      · rename_i c found
        cases fails
        rcases List.find?_eq_some_iff_append.mp found with ⟨outside, before, after, split, inside⟩
        apply Flaw.character split
        · simpa [isSymbolChar_eq_true_iff] using inside
        · simpa [← isSymbolChar_eq_true_iff] using outside
      · cases fails
  · rintro (empty | @⟨before, after, c, split, inside, outside⟩)
    · simp [empty]
    · have found : symbol.toList.find? (!isSymbolChar ·) = some c := by
        apply List.find?_eq_some_iff_append.mpr
        refine ⟨?_, before, after, split, ?_⟩
        · simpa [← isSymbolChar_eq_true_iff] using outside
        · simpa [isSymbolChar_eq_true_iff] using inside
      have filled : symbol ≠ "" := by
        rintro rfl
        simp at split
      simp [filled, found]

/-! ### Parts of a text -/

theorem splitFirst?_append {separator : Char} {before : List Char} (without : separator ∉ before)
    (after : List Char) :
    splitFirst? separator (before ++ separator :: after) = some (before, after) := by
  induction before with
  | nil => simp [splitFirst?]
  | cons c rest inductionHypothesis =>
      rcases not_or.mp (mt List.mem_cons.mpr without) with ⟨different, restWithout⟩
      simp [splitFirst?, Ne.symm different, inductionHypothesis restWithout]

theorem splitFirst?_eq_none {separator : Char} {text : List Char} (without : separator ∉ text) :
    splitFirst? separator text = none := by
  induction text with
  | nil => rfl
  | cons c rest inductionHypothesis =>
      rcases not_or.mp (mt List.mem_cons.mpr without) with ⟨different, restWithout⟩
      simp [splitFirst?, Ne.symm different, inductionHypothesis restWithout]

/-- A text is cut at its first slash, and what follows at its first colon. The parts are those of a
pair, whatever they hold. -/
inductive Cut : String → Pair → Prop
  | spot {base quote : String} :
      '/' ∉ base.toList → ':' ∉ quote.toList →
      Cut (base ++ "/" ++ quote) ⟨base, quote, none⟩
  | derivative {base quote settle : String} :
      '/' ∉ base.toList → ':' ∉ quote.toList →
      Cut (base ++ "/" ++ quote ++ ":" ++ settle) ⟨base, quote, some settle⟩

/-- The parts of a pair with their roles, in order. -/
def parts (pair : Pair) : List (Role × String) :=
  (.base, pair.base) :: (.quote, pair.quote) ::
    match pair.settle with
    | some settle => [(.settle, settle)]
    | none => []

/-- All parts of a pair are symbols. -/
def WellFormed (pair : Pair) : Prop := ∀ part ∈ pair.parts, IsSymbol part.2

/-- What is wrong with the first part that is no symbol. -/
inductive FirstFlaw : List (Role × String) → PairFault → Prop
  | here {role : Role} {symbol : String} {rest : List (Role × String)} {fault : PairFault} :
      Flaw role symbol fault → FirstFlaw ((role, symbol) :: rest) fault
  | later {role : Role} {symbol : String} {rest : List (Role × String)} {fault : PairFault} :
      IsSymbol symbol → FirstFlaw rest fault → FirstFlaw ((role, symbol) :: rest) fault

/-- Check parts in order. -/
def checkParts : List (Role × String) → Except PairFault Unit
  | [] => .ok ()
  | (role, symbol) :: rest => do
      checkSymbol role symbol.toList
      checkParts rest

theorem checkParts_eq_ok_iff (parts : List (Role × String)) :
    checkParts parts = .ok () ↔ ∀ part ∈ parts, IsSymbol part.2 := by
  induction parts with
  | nil => simp [checkParts]
  | cons part rest inductionHypothesis =>
      rcases part with ⟨role, symbol⟩
      rw [List.forall_mem_cons, ← inductionHypothesis, ← checkSymbol_eq_ok_iff role, checkParts]
      cases checkSymbol role symbol.toList <;> simp [bind, Except.bind]

theorem checkParts_eq_error_iff (parts : List (Role × String)) (fault : PairFault) :
    checkParts parts = .error fault ↔ FirstFlaw parts fault := by
  induction parts with
  | nil =>
      constructor
      · rintro ⟨⟩
      · rintro ⟨⟩
  | cons part rest inductionHypothesis =>
      rcases part with ⟨role, symbol⟩
      have split : FirstFlaw ((role, symbol) :: rest) fault ↔
          Flaw role symbol fault ∨ IsSymbol symbol ∧ FirstFlaw rest fault := by
        constructor
        · rintro (flaw | ⟨isSymbol, flaw⟩)
          · exact .inl flaw
          · exact .inr ⟨isSymbol, flaw⟩
        · rintro (flaw | ⟨isSymbol, flaw⟩)
          · exact .here flaw
          · exact .later isSymbol flaw
      rw [split, ← checkSymbol_eq_error_iff, ← checkSymbol_eq_ok_iff role, ← inductionHypothesis,
        checkParts]
      cases checkSymbol role symbol.toList <;> simp [bind, Except.bind]

/-! ### Reading a pair -/

theorem ofText_of_notMem {text : String} (without : '/' ∉ text.toList) :
    ofText text = .error .missingSeparator := by
  simp [ofText, ofChars, splitFirst?_eq_none without]
  rfl

/-- A text is read as its parts, if they pass. -/
theorem ofText_of_cut {text : String} {pair : Pair} (cut : Cut text pair) :
    ofText text = (checkParts pair.parts).map fun _ => pair := by
  cases cut with
  | @spot base quote noSlash noColon =>
      have split : splitFirst? '/' (base ++ "/" ++ quote).toList =
          some (base.toList, quote.toList) := by
        simp [splitFirst?_append noSlash]
      simp only [ofText, ofChars, split, splitFirst?_eq_none noColon, parts, checkParts]
      cases checkSymbol .base base.toList with
      | error fault => rfl
      | ok _ =>
          cases checkSymbol .quote quote.toList <;>
            simp [bind, Except.bind, Except.map, pure, Except.pure]
  | @derivative base quote settle noSlash noColon =>
      have split : splitFirst? '/' (base ++ "/" ++ quote ++ ":" ++ settle).toList =
          some (base.toList, quote.toList ++ ':' :: settle.toList) := by
        simp [splitFirst?_append noSlash]
      simp only [ofText, ofChars, split, splitFirst?_append noColon, parts, checkParts]
      cases checkSymbol .base base.toList with
      | error fault => rfl
      | ok _ =>
          cases checkSymbol .quote quote.toList with
          | error fault => rfl
          | ok _ =>
              cases checkSymbol .settle settle.toList <;>
                simp [bind, Except.bind, Except.map, pure, Except.pure]

theorem exists_append_of_mem {separator : Char} {text : String}
    (among : separator ∈ text.toList) :
    ∃ before after : String, separator ∉ before.toList ∧
      text.toList = before.toList ++ separator :: after.toList := by
  rcases List.eq_append_cons_of_mem among with ⟨before, after, split, without⟩
  exact ⟨String.ofList before, String.ofList after, by simpa using without, by simpa using split⟩

/-- A text with a slash has parts. -/
theorem exists_cut {text : String} (slash : '/' ∈ text.toList) : ∃ pair, Cut text pair := by
  rcases exists_append_of_mem slash with ⟨base, rest, noSlash, split⟩
  by_cases colon : ':' ∈ rest.toList
  · rcases exists_append_of_mem colon with ⟨quote, settle, noColon, restSplit⟩
    have same : text = base ++ "/" ++ quote ++ ":" ++ settle := by
      rw [← String.toList_inj]
      simp [split, restSplit]
    rw [same]
    exact ⟨_, .derivative noSlash noColon⟩
  · have same : text = base ++ "/" ++ rest := by
      rw [← String.toList_inj]
      simp [split]
    rw [same]
    exact ⟨_, .spot noSlash colon⟩

theorem Cut.mem {text : String} {pair : Pair} (cut : Cut text pair) : '/' ∈ text.toList := by
  cases cut <;> simp

theorem Cut.text_eq {text : String} {pair : Pair} (cut : Cut text pair) : pair.text = text := by
  cases cut <;> simp [Pair.text, String.append_assoc]

theorem WellFormed.cut {pair : Pair} (wellFormed : pair.WellFormed) : Cut pair.text pair := by
  rcases pair with ⟨base, quote, settle⟩
  have noSlash : '/' ∉ base.toList :=
    (wellFormed (.base, base) (by simp [parts])).notMem (by decide)
  have noColon : ':' ∉ quote.toList :=
    (wellFormed (.quote, quote) (by simp [parts])).notMem (by decide)
  cases settle with
  | none => simpa [Pair.text] using Cut.spot noSlash noColon
  | some settle =>
      have cut : Cut _ ⟨base, quote, some settle⟩ := .derivative noSlash noColon
      simpa [Pair.text, String.append_assoc] using cut

theorem ofText_eq_ok_iff (text : String) (pair : Pair) :
    ofText text = .ok pair ↔ pair.WellFormed ∧ pair.text = text := by
  constructor
  · intro reads
    by_cases slash : '/' ∈ text.toList
    · rcases exists_cut slash with ⟨found, cut⟩
      rw [ofText_of_cut cut] at reads
      cases checked : checkParts found.parts with
      | error fault =>
          rw [checked] at reads
          cases reads
      | ok _ =>
          rw [checked] at reads
          cases reads
          exact ⟨(checkParts_eq_ok_iff _).mp checked, cut.text_eq⟩
    · rw [ofText_of_notMem slash] at reads
      cases reads
  · rintro ⟨wellFormed, rfl⟩
    rw [ofText_of_cut wellFormed.cut, (checkParts_eq_ok_iff _).mpr wellFormed]
    rfl

/-- Why a text is no pair. -/
inductive Refused (text : String) : PairFault → Prop
  | noSlash : '/' ∉ text.toList → Refused text .missingSeparator
  | part {pair : Pair} {fault : PairFault} :
      Cut text pair → FirstFlaw pair.parts fault → Refused text fault

theorem ofText_eq_error_iff (text : String) (fault : PairFault) :
    ofText text = .error fault ↔ Refused text fault := by
  constructor
  · intro fails
    by_cases slash : '/' ∈ text.toList
    · rcases exists_cut slash with ⟨found, cut⟩
      apply Refused.part cut
      rw [ofText_of_cut cut] at fails
      apply (checkParts_eq_error_iff _ _).mp
      cases checked : checkParts found.parts with
      | error other =>
          rw [checked] at fails
          cases fails
          rfl
      | ok _ =>
          rw [checked] at fails
          cases fails
    · rw [ofText_of_notMem slash] at fails
      cases fails
      exact .noSlash slash
  · rintro (without | ⟨cut, flaw⟩)
    · exact ofText_of_notMem without
    · rw [ofText_of_cut cut, (checkParts_eq_error_iff _ _).mpr flaw]
      rfl

/-! ### The grammar -/

/-- The texts of pairs: `BASE/QUOTE`, and `BASE/QUOTE:SETTLE`. -/
inductive Spelling : String → Prop
  | spot {base quote : String} :
      IsSymbol base → IsSymbol quote → Spelling (base ++ "/" ++ quote)
  | derivative {base quote settle : String} :
      IsSymbol base → IsSymbol quote → IsSymbol settle →
      Spelling (base ++ "/" ++ quote ++ ":" ++ settle)

theorem spelling_iff (text : String) :
    Spelling text ↔ ∃ pair : Pair, pair.WellFormed ∧ pair.text = text := by
  constructor
  · rintro (@⟨base, quote, isBase, isQuote⟩ | @⟨base, quote, settle, isBase, isQuote, isSettle⟩)
    · refine ⟨⟨base, quote, none⟩, ?_, by simp [Pair.text]⟩
      simp [WellFormed, parts, isBase, isQuote]
    · refine ⟨⟨base, quote, some settle⟩, ?_, by simp [Pair.text, String.append_assoc]⟩
      simp [WellFormed, parts, isBase, isQuote, isSettle]
  · rintro ⟨⟨base, quote, settle⟩, wellFormed, rfl⟩
    have isBase : IsSymbol base := wellFormed (.base, base) (by simp [parts])
    have isQuote : IsSymbol quote := wellFormed (.quote, quote) (by simp [parts])
    cases settle with
    | none => simpa [Pair.text] using Spelling.spot isBase isQuote
    | some settle =>
        have isSettle : IsSymbol settle := wellFormed (.settle, settle) (by simp [parts])
        simpa [Pair.text, String.append_assoc] using Spelling.derivative isBase isQuote isSettle

/-- Exactly the spellings of the grammar are read. A pair that has been read is written as it was
read, a pair of symbols is read as it is written, so pairs are equal exactly if their texts are.
Any other text is refused for the want of a slash, or for the first part that is no symbol. -/
theorem ofText_exact :
    (∀ text, (∃ pair, ofText text = .ok pair) ↔ Spelling text) ∧
    (∀ text pair, ofText text = .ok pair → pair.text = text) ∧
    (∀ pair : Pair, pair.WellFormed → ofText pair.text = .ok pair) ∧
    (∀ text other pair otherPair, ofText text = .ok pair → ofText other = .ok otherPair →
      (pair = otherPair ↔ text = other)) ∧
    ∀ text fault, ofText text = .error fault ↔ Refused text fault := by
  refine ⟨?_, ?_, ?_, ?_, ofText_eq_error_iff⟩
  · intro text
    simp only [ofText_eq_ok_iff, spelling_iff]
  · intro text pair reads
    exact ((ofText_eq_ok_iff text pair).mp reads).2
  · intro pair wellFormed
    exact (ofText_eq_ok_iff _ pair).mpr ⟨wellFormed, rfl⟩
  · intro text other pair otherPair reads otherReads
    constructor
    · rintro rfl
      rw [← ((ofText_eq_ok_iff text pair).mp reads).2,
        ((ofText_eq_ok_iff other pair).mp otherReads).2]
    · rintro rfl
      rw [reads] at otherReads
      exact Except.ok.inj otherReads

/-- A derivative that is settled in a coin of its own. -/
def perpetual : Pair := ⟨"1000SHIB", "USDT", some "USD.T"⟩

theorem ofText_exact_perpetual :
    perpetual.WellFormed ∧
    ofText "1000SHIB/USDT:USD.T" = .ok perpetual ∧
    Spelling "1000SHIB/USDT:USD.T" ∧
    Refused "1000SHIB/USD:T:ΤΗΒ" (.invalidCharacter ':') ∧
    Refused "/US:DT" (.emptySymbol .base) := by
  rcases ofText_exact with ⟨spelled, _, reread, _, refused⟩
  have wellFormed : perpetual.WellFormed := (checkParts_eq_ok_iff _).mp (by decide)
  have reads : ofText "1000SHIB/USDT:USD.T" = .ok perpetual := reread perpetual wellFormed
  refine ⟨wellFormed, reads, (spelled _).mp ⟨_, reads⟩, ?_, ?_⟩
  · apply (refused _ _).mp
    decide
  · apply (refused _ _).mp
    decide

end BotConfig.Pair
