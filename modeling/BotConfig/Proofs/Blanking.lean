import BotConfig.Comment
import BotConfig.Strict.Lexeme

/-!
Blanking piece by piece.

A text outside of comments and literals is blanked piece after piece: bare characters and whole
literals stay, and a gap of blanks and comments becomes a gap of blanks.
-/

namespace BotConfig.Comment

/-- The mark after a run of characters. -/
def Mark.afterAll (mark : Mark) (text : List Char) : Mark := text.foldl Mark.after mark

@[simp]
theorem Mark.afterAll_nil (mark : Mark) : mark.afterAll [] = mark := rfl

@[simp]
theorem Mark.afterAll_cons (mark : Mark) (c : Char) (rest : List Char) :
    mark.afterAll (c :: rest) = (mark.after c).afterAll rest := rfl

@[simp]
theorem Mark.afterAll_append (mark : Mark) (first second : List Char) :
    mark.afterAll (first ++ second) = (mark.afterAll first).afterAll second :=
  List.foldl_append

/-- What a piece of text becomes where it starts outside of comments and literals, and that it ends
there. -/
def Becomes (piece blanked : List Char) : Prop :=
  ∀ mark rest, ∃ after,
    blankFrom .plain mark (piece ++ rest) = (blanked ++ ·) <$> blankFrom .plain after rest

namespace Becomes

theorem nil : Becomes [] [] := by
  intro mark rest
  exact ⟨mark, by simp⟩

theorem append {first firstBlanked second secondBlanked : List Char}
    (firstBecomes : Becomes first firstBlanked) (secondBecomes : Becomes second secondBlanked) :
    Becomes (first ++ second) (firstBlanked ++ secondBlanked) := by
  intro mark rest
  obtain ⟨middle, firstStep⟩ := firstBecomes mark (second ++ rest)
  obtain ⟨after, secondStep⟩ := secondBecomes middle rest
  refine ⟨after, ?_⟩
  rw [List.append_assoc, firstStep, secondStep]
  simp [Functor.map_map]

theorem blankAll_eq {text blanked : List Char} (becomes : Becomes text blanked) :
    blankAll text = .ok blanked := by
  obtain ⟨after, whole⟩ := becomes .start []
  rw [List.append_nil] at whole
  rw [blankAll, whole]
  simp [blankFrom, Functor.map, Except.map]

end Becomes

/-! ### Pieces that stay -/

/-- A character that opens neither a literal nor a comment. -/
def IsBare (c : Char) : Prop := c ≠ '"' ∧ c ≠ '/'

theorem blankFrom_plain_bare {c : Char} (bare : IsBare c) (mark : Mark) (rest : List Char) :
    blankFrom .plain mark (c :: rest) = (c :: ·) <$> blankFrom .plain (mark.after c) rest := by
  obtain ⟨noQuote, noSlash⟩ := bare
  rw [blankFrom]
  · exact noQuote
  · intro _ isSlash
    exact absurd isSlash noSlash
  · intro _ isSlash
    exact absurd isSlash noSlash

theorem becomes_bare {piece : List Char} (bare : ∀ c ∈ piece, IsBare c) :
    Becomes piece piece := by
  induction piece with
  | nil => exact .nil
  | cons c others inductionHypothesis =>
      obtain ⟨firstBare, othersBare⟩ := List.forall_mem_cons.mp bare
      intro mark rest
      obtain ⟨after, below⟩ := inductionHypothesis othersBare (mark.after c) rest
      refine ⟨after, ?_⟩
      rw [List.cons_append, blankFrom_plain_bare firstBare, below]
      simp [Functor.map_map]

/-- What follows the opening quote of a literal, up to the quote that closes it. -/
inductive LiteralBody : List Char → Prop
  | close : LiteralBody ['"']
  | escape (c : Char) {rest : List Char} : LiteralBody rest → LiteralBody ('\\' :: c :: rest)
  | plain {c : Char} {rest : List Char} :
      c ≠ '"' → c ≠ '\\' → LiteralBody rest → LiteralBody (c :: rest)

theorem LiteralBody.blankFrom_eq {body : List Char} (isBody : LiteralBody body) (mark : Mark)
    (rest : List Char) :
    blankFrom .literal mark (body ++ rest) =
      (body ++ ·) <$> blankFrom .plain (mark.afterAll body) rest := by
  induction isBody generalizing mark with
  | close => simp [blankFrom]
  | escape c _ inductionHypothesis =>
      simp [blankFrom, inductionHypothesis, Functor.map_map]
  | @plain c _ noQuote noBackslash _ inductionHypothesis =>
      simp [blankFrom, noQuote, noBackslash, inductionHypothesis, Functor.map_map]

theorem LiteralBody.becomes {body : List Char} (isBody : LiteralBody body) :
    Becomes ('"' :: body) ('"' :: body) := by
  intro mark rest
  refine ⟨mark.afterAll ('"' :: body), ?_⟩
  rw [List.cons_append, blankFrom, isBody.blankFrom_eq]
  simp [Functor.map_map]

/-! ### Gaps -/

/-- A comment that ends with its line. -/
def lineComment (body : List Char) : List Char := '/' :: '/' :: (body ++ ['\n'])

/-- A comment that ends with a closer. -/
def blockComment (body : List Char) : List Char := '/' :: '*' :: (body ++ ['*', '/'])

/-- Blanks and comments. No comment goes on behind the first thing that ends it. -/
inductive Gap : List Char → Prop
  | nil : Gap []
  | blank {c : Char} {rest : List Char} : Strict.isBlank c = true → Gap rest → Gap (c :: rest)
  | line {body rest : List Char} :
      '\n' ∉ body → Gap rest → Gap (lineComment body ++ rest)
  | block {body rest : List Char} :
      ¬ ['*', '/'] <:+: body → Gap rest → Gap (blockComment body ++ rest)

/-- Nothing but blanks. -/
def AllBlank (text : List Char) : Prop := ∀ c ∈ text, Strict.isBlank c = true

theorem isBare_of_isBlank {c : Char} (blank : Strict.isBlank c = true) : IsBare c := by
  constructor
  · rintro rfl
    cases blank
  · rintro rfl
    cases blank

theorem AllBlank.becomes {text : List Char} (blank : AllBlank text) : Becomes text text :=
  becomes_bare fun c membership => isBare_of_isBlank (blank c membership)

theorem AllBlank.nil : AllBlank [] := by
  simp [AllBlank]

theorem AllBlank.append {first second : List Char} (firstBlank : AllBlank first)
    (secondBlank : AllBlank second) : AllBlank (first ++ second) :=
  List.forall_mem_append.mpr ⟨firstBlank, secondBlank⟩

theorem allBlank_blank (c : Char) : AllBlank (blank c) := by
  intro other membership
  unfold blank at membership
  split at membership
  · rename_i lineEnd
    rw [List.mem_singleton.mp membership]
    rcases lineEnd with rfl | rfl <;> rfl
  · rw [List.eq_of_mem_replicate membership]
    rfl

theorem allBlank_flatMap_blank (body : List Char) : AllBlank (body.flatMap blank) := by
  intro c membership
  obtain ⟨original, _, inBlank⟩ := List.mem_flatMap.mp membership
  exact allBlank_blank original c inBlank

theorem allBlank_comment (body : List Char) {ending : List Char} (blank : AllBlank ending) :
    AllBlank (' ' :: ' ' :: (body.flatMap Comment.blank ++ ending)) := by
  have opener : AllBlank [' ', ' '] := by simp [AllBlank, Strict.isBlank]
  exact opener.append ((allBlank_flatMap_blank body).append blank)

theorem blankFrom_lineComment {body : List Char} (oneLine : '\n' ∉ body) (mark : Mark)
    (rest : List Char) :
    blankFrom .lineComment mark (body ++ rest) =
      (body.flatMap blank ++ ·) <$> blankFrom .lineComment (mark.afterAll body) rest := by
  induction body generalizing mark with
  | nil => simp
  | cons c others inductionHypothesis =>
      rw [List.mem_cons, not_or] at oneLine
      rw [List.cons_append, blankFrom, if_neg (Ne.symm oneLine.1), inductionHypothesis oneLine.2]
      simp [Functor.map_map]

/-- A line end is no part of the comment before it. -/
theorem blankFrom_lineComment_end (mark : Mark) {rest : List Char}
    (ends : ∀ c ∈ rest.head?, c = '\n') :
    blankFrom .lineComment mark rest = blankFrom .plain mark rest := by
  cases rest with
  | nil => simp [blankFrom]
  | cons c others =>
      have isEnd : c = '\n' := ends c rfl
      subst isEnd
      simp [blankFrom, blank]

/-- No character of a body without a closer closes the comment, not even the last one. -/
theorem blankFrom_blockComment {body : List Char} (noCloser : ¬ ['*', '/'] <:+: body)
    (opening mark : Mark) (rest : List Char) :
    blankFrom (.blockComment opening) mark (body ++ '*' :: '/' :: rest) =
      (body.flatMap blank ++ ' ' :: ' ' :: ·) <$>
        blankFrom .plain (mark.afterAll (body ++ ['*', '/'])) rest := by
  induction body generalizing mark with
  | nil => simp [blankFrom]
  | cons c others inductionHypothesis =>
      have othersOpen : ¬ ['*', '/'] <:+: others := by
        intro inside
        exact noCloser (inside.trans (List.suffix_cons c others).isInfix)
      rw [List.cons_append, blankFrom, inductionHypothesis othersOpen]
      · simp [Functor.map_map]
      · intro tail isStar starts
        subst isStar
        cases others with
        | nil => simp at starts
        | cons next more =>
            rw [List.cons_append, List.cons.injEq] at starts
            obtain ⟨rfl, -⟩ := starts
            exact noCloser (List.prefix_append ['*', '/'] more).isInfix

theorem becomes_lineComment {body : List Char} (oneLine : '\n' ∉ body) :
    Becomes (lineComment body) (' ' :: ' ' :: (body.flatMap blank ++ ['\n'])) := by
  intro mark rest
  refine ⟨mark.afterAll (lineComment body), ?_⟩
  have atEnd : ∀ c ∈ ('\n' :: rest).head?, c = '\n' := by simp
  have endStays : blankFrom .plain ((mark.afterAll ['/', '/']).afterAll body) ('\n' :: rest) =
      ('\n' :: ·) <$> blankFrom .plain (mark.afterAll (lineComment body)) rest := by
    simp [lineComment, blankFrom]
  have inside := blankFrom_lineComment oneLine (mark.afterAll ['/', '/']) ('\n' :: rest)
  rw [blankFrom_lineComment_end _ atEnd, endStays] at inside
  simp only [Mark.afterAll_cons, Mark.afterAll_nil] at inside
  simp [lineComment, blankFrom, inside, Functor.map_map]

theorem becomes_blockComment {body : List Char} (noCloser : ¬ ['*', '/'] <:+: body) :
    Becomes (blockComment body) (' ' :: ' ' :: (body.flatMap blank ++ [' ', ' '])) := by
  intro mark rest
  refine ⟨mark.afterAll (blockComment body), ?_⟩
  have inside := blankFrom_blockComment noCloser mark ((mark.after '/').after '*') rest
  simp [blockComment, blankFrom, inside, Functor.map_map]

/-- A gap of blanks and comments becomes a gap of blanks. -/
theorem Gap.becomes {gap : List Char} (isGap : Gap gap) :
    ∃ blanked, AllBlank blanked ∧ Becomes gap blanked := by
  induction isGap with
  | nil => exact ⟨[], .nil, .nil⟩
  | @blank c rest isBlank _ inductionHypothesis =>
      obtain ⟨blanked, blank, becomes⟩ := inductionHypothesis
      have single : AllBlank [c] := by simpa [AllBlank] using isBlank
      exact ⟨[c] ++ blanked, single.append blank, single.becomes.append becomes⟩
  | @line body rest oneLine _ inductionHypothesis =>
      obtain ⟨blanked, blank, becomes⟩ := inductionHypothesis
      refine ⟨_, ?_, (becomes_lineComment oneLine).append becomes⟩
      exact (allBlank_comment body (by simp [AllBlank, Strict.isBlank])).append blank
  | @block body rest noCloser _ inductionHypothesis =>
      obtain ⟨blanked, blank, becomes⟩ := inductionHypothesis
      refine ⟨_, ?_, (becomes_blockComment noCloser).append becomes⟩
      exact (allBlank_comment body (by simp [AllBlank, Strict.isBlank])).append blank

end BotConfig.Comment
