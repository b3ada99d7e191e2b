import Mathlib.Data.List.Infix
import Mathlib.Data.List.TakeWhile
import BotConfig.Proofs.Blanking

/-!
Which bytes of a text are blanked.

A text is cut from left to right into literals, comments and single characters, in exactly one
way.  Blanking follows the cut: within comments every byte but those of line ends becomes a blank,
and all others stay, each at its offset.  A block comment without a closer is left over by the cut,
and is the error of the text.
-/

namespace BotConfig.Comment

/-! ### The cut of a text -/

/-- A part of a text. -/
inductive Segment where
  /-- A quoted literal with its quotes; at the end of a text the closing one may be missing. -/
  | literal (content : List Char)
  /-- A comment with its opener, and with its closer if it has one. -/
  | comment (content : List Char)
  | single (c : Char)

/-- The characters of a segment. -/
def Segment.text : Segment → List Char
  | .literal content => content
  | .comment content => content
  | .single c => [c]

/-- Whether a segment is blanked. -/
def Segment.isComment : Segment → Bool
  | .comment _ => true
  | _ => false

/-- A block comment that nothing closes. -/
inductive OpenBlock : List Char → Prop
  | intro {body : List Char} : ¬ ['*', '/'] <:+: body → OpenBlock ('/' :: '*' :: body)

/-- The first segment of a text, and the text after it. -/
inductive First : List Char → Segment → List Char → Prop
  /-- A literal ends with the first quote that is not escaped. -/
  | literal {body rest : List Char} : LiteralBody body →
      First ('"' :: (body ++ rest)) (.literal ('"' :: body)) rest
  /-- A literal that no quote closes goes on to the end. -/
  | openLiteral {body : List Char} : (∀ closed, LiteralBody closed → ¬ closed <+: body) →
      First ('"' :: body) (.literal ('"' :: body)) []
  /-- A line comment ends before the first line end. -/
  | lineComment {body rest : List Char} : '\n' ∉ body → (∀ c ∈ rest.head?, c = '\n') →
      First ('/' :: '/' :: (body ++ rest)) (.comment ('/' :: '/' :: body)) rest
  /-- A block comment ends with the first closer behind its opener. -/
  | blockComment {body rest : List Char} : ¬ ['*', '/'] <:+: body →
      First (blockComment body ++ rest) (.comment (blockComment body)) rest
  | single {c : Char} {rest : List Char} : c ≠ '"' →
      ¬ ['/', '/'] <+: c :: rest → ¬ ['/', '*'] <+: c :: rest → First (c :: rest) (.single c) rest

/-- The segments of a text, and the open block comment that is left over at its end, if there is
one. -/
inductive Cut : List Char → List Segment → List Char → Prop
  | finish : Cut [] [] []
  | left {text : List Char} : OpenBlock text → Cut text [] text
  | next {text rest remainder : List Char} {segment : Segment} {others : List Segment} :
      First text segment rest → Cut rest others remainder →
      Cut text (segment :: others) remainder

theorem First.text_eq {text rest : List Char} {segment : Segment}
    (first : First text segment rest) : text = segment.text ++ rest := by
  cases first <;> simp [Segment.text]

theorem First.length_lt {text rest : List Char} {segment : Segment}
    (first : First text segment rest) : rest.length < text.length := by
  rw [first.text_eq, List.length_append]
  cases first <;> simp [Segment.text, Comment.blockComment]

theorem Cut.text_eq {text remainder : List Char} {segments : List Segment}
    (cut : Cut text segments remainder) :
    text = segments.flatMap Segment.text ++ remainder := by
  induction cut with
  | finish => rfl
  | left _ => rfl
  | next first _ inductionHypothesis =>
      rw [first.text_eq, inductionHypothesis, List.flatMap_cons, List.append_assoc]

theorem Cut.openBlock {text remainder : List Char} {segments : List Segment}
    (cut : Cut text segments remainder) (isLeft : remainder ≠ []) : OpenBlock remainder := by
  induction cut with
  | finish => exact absurd rfl isLeft
  | left isOpen => exact isOpen
  | next _ _ inductionHypothesis => exact inductionHypothesis isLeft

/-! ### Every text is cut in one way -/

theorem LiteralBody.ne_nil {body : List Char} (isBody : LiteralBody body) : body ≠ [] := by
  cases isBody <;> simp

/-- A literal ends in one place. -/
theorem LiteralBody.unique {body other : List Char} (isBody : LiteralBody body)
    (otherBody : LiteralBody other) {rest otherRest : List Char}
    (same : body ++ rest = other ++ otherRest) : body = other ∧ rest = otherRest := by
  induction isBody generalizing other with
  | close =>
      cases otherBody with
      | close => simpa using same
      | escape => simp at same
      | plain noQuote => exact absurd (List.cons.inj same).1.symm noQuote
  | escape c _ inductionHypothesis =>
      cases otherBody with
      | close => simp at same
      | escape d below =>
          simp only [List.cons_append, List.cons.injEq, true_and] at same
          obtain ⟨rfl, same⟩ := same
          obtain ⟨rfl, rfl⟩ := inductionHypothesis below same
          exact ⟨rfl, rfl⟩
      | plain _ noBackslash => exact absurd (List.cons.inj same).1.symm noBackslash
  | plain noQuote noBackslash _ inductionHypothesis =>
      cases otherBody with
      | close => exact absurd (List.cons.inj same).1 noQuote
      | escape => exact absurd (List.cons.inj same).1 noBackslash
      | plain _ _ below =>
          simp only [List.cons_append, List.cons.injEq] at same
          obtain ⟨rfl, same⟩ := same
          obtain ⟨rfl, rfl⟩ := inductionHypothesis below same
          exact ⟨rfl, rfl⟩

/-- A line ends in one place. -/
theorem line_unique {body other : List Char} (oneLine : '\n' ∉ body) (otherLine : '\n' ∉ other)
    {rest otherRest : List Char} (ends : ∀ c ∈ rest.head?, c = '\n')
    (otherEnds : ∀ c ∈ otherRest.head?, c = '\n') (same : body ++ rest = other ++ otherRest) :
    body = other ∧ rest = otherRest := by
  induction body generalizing other with
  | nil =>
      cases other with
      | nil => exact ⟨rfl, same⟩
      | cons c others =>
          rw [List.nil_append] at same
          subst same
          exact absurd (ends c rfl ▸ List.mem_cons_self) otherLine
  | cons c others inductionHypothesis =>
      cases other with
      | nil =>
          rw [List.nil_append] at same
          subst same
          exact absurd (otherEnds c rfl ▸ List.mem_cons_self) oneLine
      | cons d more =>
          simp only [List.cons_append, List.cons.injEq] at same
          obtain ⟨rfl, same⟩ := same
          obtain ⟨rfl, rfl⟩ := inductionHypothesis (List.not_mem_of_not_mem_cons oneLine)
            (List.not_mem_of_not_mem_cons otherLine) same
          exact ⟨rfl, rfl⟩

/-- A text without a closer ends before the first closer. -/
theorem eq_nil_of_closer_append {body rest otherRest : List Char}
    (noCloser : ¬ ['*', '/'] <:+: body)
    (same : '*' :: '/' :: rest = body ++ '*' :: '/' :: otherRest) : body = [] := by
  cases body with
  | nil => rfl
  | cons c others =>
      rw [List.cons_append, List.cons.injEq] at same
      obtain ⟨rfl, same⟩ := same
      cases others with
      | nil => simp at same
      | cons d more =>
          rw [List.cons_append, List.cons.injEq] at same
          obtain ⟨rfl, -⟩ := same
          exact absurd (List.prefix_append ['*', '/'] more).isInfix noCloser

/-- A block comment ends in one place. -/
theorem closer_unique {body other : List Char} (noCloser : ¬ ['*', '/'] <:+: body)
    (noOther : ¬ ['*', '/'] <:+: other) {rest otherRest : List Char}
    (same : body ++ '*' :: '/' :: rest = other ++ '*' :: '/' :: otherRest) :
    body = other ∧ rest = otherRest := by
  induction body generalizing other with
  | nil =>
      obtain rfl := eq_nil_of_closer_append noOther same
      simpa using same
  | cons c others inductionHypothesis =>
      cases other with
      | nil => exact absurd (eq_nil_of_closer_append noCloser same.symm) (by simp)
      | cons d more =>
          rw [List.cons_append, List.cons_append, List.cons.injEq] at same
          obtain ⟨rfl, same⟩ := same
          have othersOpen : ¬ ['*', '/'] <:+: others := fun inside =>
            noCloser (inside.trans (List.suffix_cons c others).isInfix)
          have moreOpen : ¬ ['*', '/'] <:+: more := fun inside =>
            noOther (inside.trans (List.suffix_cons c more).isInfix)
          obtain ⟨rfl, rfl⟩ := inductionHypothesis othersOpen moreOpen same
          exact ⟨rfl, rfl⟩

theorem blockComment_append (body rest : List Char) :
    blockComment body ++ rest = '/' :: '*' :: (body ++ '*' :: '/' :: rest) := by
  simp [blockComment]

theorem First.of_quote {body rest : List Char} {segment : Segment}
    (first : First ('"' :: body) segment rest) :
    (∃ closed, LiteralBody closed ∧ body = closed ++ rest ∧
      segment = .literal ('"' :: closed)) ∨
    ((∀ closed, LiteralBody closed → ¬ closed <+: body) ∧ rest = [] ∧
      segment = .literal ('"' :: body)) := by
  cases first with
  | literal isBody => exact .inl ⟨_, isBody, rfl, rfl⟩
  | openLiteral isOpen => exact .inr ⟨isOpen, rfl, rfl⟩
  | single noQuote => exact absurd rfl noQuote

theorem First.of_slashes {text rest : List Char} {segment : Segment}
    (first : First ('/' :: '/' :: text) segment rest) :
    ∃ body, '\n' ∉ body ∧ (∀ c ∈ rest.head?, c = '\n') ∧ text = body ++ rest ∧
      segment = .comment ('/' :: '/' :: body) := by
  cases first with
  | lineComment oneLine ends => exact ⟨_, oneLine, ends, rfl, rfl⟩
  | single _ noLine => exact absurd (List.prefix_append ['/', '/'] text) noLine

theorem First.of_slashStar {text rest : List Char} {segment : Segment}
    (first : First ('/' :: '*' :: text) segment rest) :
    ∃ body, ¬ ['*', '/'] <:+: body ∧ text = body ++ '*' :: '/' :: rest ∧
      segment = .comment (Comment.blockComment body) := by
  generalize whole : '/' :: '*' :: text = input at first
  cases first with
  | literal => simp at whole
  | openLiteral => simp at whole
  | lineComment => simp at whole
  | blockComment noCloser =>
      simp only [blockComment_append, List.cons.injEq, true_and] at whole
      exact ⟨_, noCloser, whole, rfl⟩
  | single _ _ noBlock =>
      rw [← whole] at noBlock
      exact absurd (List.prefix_append ['/', '*'] text) noBlock

/-- The first segment of a text is determined by the text. -/
theorem First.unique {text rest otherRest : List Char} {segment other : Segment}
    (first : First text segment rest) (otherFirst : First text other otherRest) :
    segment = other ∧ rest = otherRest := by
  cases first with
  | literal isBody =>
      obtain ⟨closed, closedBody, same, rfl⟩ | ⟨isOpen, -, -⟩ := otherFirst.of_quote
      · obtain ⟨rfl, rfl⟩ := isBody.unique closedBody same
        exact ⟨rfl, rfl⟩
      · exact absurd (List.prefix_append _ _) (isOpen _ isBody)
  | openLiteral isOpen =>
      obtain ⟨closed, closedBody, rfl, -⟩ | ⟨-, rfl, rfl⟩ := otherFirst.of_quote
      · exact absurd (List.prefix_append _ _) (isOpen closed closedBody)
      · exact ⟨rfl, rfl⟩
  | lineComment oneLine ends =>
      obtain ⟨body, otherLine, otherEnds, same, rfl⟩ := otherFirst.of_slashes
      obtain ⟨rfl, rfl⟩ := line_unique oneLine otherLine ends otherEnds same
      exact ⟨rfl, rfl⟩
  | blockComment noCloser =>
      rw [blockComment_append] at otherFirst
      obtain ⟨body, noOther, same, rfl⟩ := otherFirst.of_slashStar
      obtain ⟨rfl, rfl⟩ := closer_unique noCloser noOther same
      exact ⟨rfl, rfl⟩
  | @single c _ noQuote noLine noBlock =>
      generalize whole : c :: rest = text at otherFirst
      cases otherFirst with
      | literal => exact absurd (List.cons.inj whole).1 noQuote
      | openLiteral => exact absurd (List.cons.inj whole).1 noQuote
      | lineComment =>
          rw [whole] at noLine
          exact absurd (List.prefix_append ['/', '/'] _) noLine
      | blockComment =>
          rw [whole, blockComment_append] at noBlock
          exact absurd (List.prefix_append ['/', '*'] _) noBlock
      | single =>
          obtain ⟨rfl, rfl⟩ := List.cons.inj whole
          exact ⟨rfl, rfl⟩

/-- An open block comment has no first segment. -/
theorem OpenBlock.not_first {text rest : List Char} {segment : Segment}
    (isOpen : OpenBlock text) : ¬ First text segment rest := by
  rintro first
  cases isOpen with
  | intro noCloser =>
      obtain ⟨body, -, rfl, -⟩ := first.of_slashStar
      exact noCloser ⟨body, rest, by simp⟩

/-- A text is cut in one way only. -/
theorem Cut.unique {text remainder otherRemainder : List Char} {segments others : List Segment}
    (cut : Cut text segments remainder) (other : Cut text others otherRemainder) :
    segments = others ∧ remainder = otherRemainder := by
  induction cut generalizing others with
  | finish =>
      cases other with
      | finish => exact ⟨rfl, rfl⟩
      | left isOpen => cases isOpen
      | next first => cases first.length_lt
  | left isOpen =>
      cases other with
      | finish => cases isOpen
      | left => exact ⟨rfl, rfl⟩
      | next first => exact absurd first isOpen.not_first
  | next first _ inductionHypothesis =>
      cases other with
      | finish => cases first.length_lt
      | left isOpen => exact absurd first isOpen.not_first
      | next otherFirst below =>
          obtain ⟨rfl, rfl⟩ := first.unique otherFirst
          obtain ⟨rfl, rfl⟩ := inductionHypothesis below
          exact ⟨rfl, rfl⟩

theorem exists_first_closer {body : List Char} (closes : ['*', '/'] <:+: body) :
    ∃ before rest, body = before ++ '*' :: '/' :: rest ∧ ¬ ['*', '/'] <:+: before := by
  induction body with
  | nil => simp at closes
  | cons c others inductionHypothesis =>
      by_cases starts : ['*', '/'] <+: c :: others
      · obtain ⟨rest, same⟩ := starts
        exact ⟨[], rest, same.symm, by simp⟩
      · obtain ⟨before, rest, rfl, noCloser⟩ :=
          inductionHypothesis ((List.infix_cons_iff.mp closes).resolve_left starts)
        refine ⟨c :: before, rest, rfl, ?_⟩
        intro inside
        obtain isPrefix | isInfix := List.infix_cons_iff.mp inside
        · exact starts (isPrefix.trans (List.prefix_append (c :: before) _))
        · exact noCloser isInfix

theorem exists_line (text : List Char) :
    ∃ body rest, text = body ++ rest ∧ '\n' ∉ body ∧ ∀ c ∈ rest.head?, c = '\n' := by
  refine ⟨text.takeWhile (· ≠ '\n'), text.dropWhile (· ≠ '\n'),
    List.takeWhile_append_dropWhile.symm, ?_, ?_⟩
  · intro inside
    simpa using List.mem_takeWhile_imp inside
  · intro c isHead
    have atEnd := List.head?_dropWhile_not (· ≠ '\n') text
    rw [Option.mem_def.mp isHead] at atEnd
    simpa using atEnd

/-- A text that goes on is an open block comment, or has a first segment. -/
theorem exists_first (c : Char) (others : List Char) :
    OpenBlock (c :: others) ∨ ∃ segment rest, First (c :: others) segment rest := by
  by_cases isQuote : c = '"'
  · subst isQuote
    by_cases closes : ∃ closed, LiteralBody closed ∧ closed <+: others
    · obtain ⟨closed, isBody, rest, rfl⟩ := closes
      exact .inr ⟨_, _, .literal isBody⟩
    · exact .inr ⟨_, _, .openLiteral fun closed isBody inside => closes ⟨closed, isBody, inside⟩⟩
  · by_cases isLine : ['/', '/'] <+: c :: others
    · obtain ⟨text, same⟩ := isLine
      obtain ⟨body, rest, rfl, oneLine, ends⟩ := exists_line text
      rw [← same]
      exact .inr ⟨_, rest, .lineComment oneLine ends⟩
    · by_cases isBlock : ['/', '*'] <+: c :: others
      · obtain ⟨body, same⟩ := isBlock
        rw [← same]
        by_cases closes : ['*', '/'] <:+: body
        · obtain ⟨before, rest, rfl, noCloser⟩ := exists_first_closer closes
          have first : First (blockComment before ++ rest) _ rest := .blockComment noCloser
          rw [blockComment_append] at first
          exact .inr ⟨_, rest, first⟩
        · exact .inl (.intro closes)
      · exact .inr ⟨_, _, .single isQuote isLine isBlock⟩

/-- Every text is cut. -/
theorem exists_cut (text : List Char) : ∃ segments remainder, Cut text segments remainder := by
  cases text with
  | nil => exact ⟨[], [], .finish⟩
  | cons c others =>
      obtain isOpen | ⟨segment, rest, first⟩ := exists_first c others
      · exact ⟨[], c :: others, .left isOpen⟩
      · have shorter := first.length_lt
        obtain ⟨segments, remainder, below⟩ := exists_cut rest
        exact ⟨segment :: segments, remainder, .next first below⟩
termination_by text.length
decreasing_by exact shorter

/-! ### Blanking follows the cut -/

/-- What is left of a segment when comments are blanked. -/
def Segment.blanked : Segment → List Char
  | .comment content => content.flatMap blank
  | segment => segment.text

@[simp]
theorem blank_slash : blank '/' = [' '] := rfl

@[simp]
theorem blank_star : blank '*' = [' '] := rfl

/-- A literal without a closing quote goes on to the end of the text. -/
theorem blankFrom_openLiteral {body : List Char}
    (isOpen : ∀ closed, LiteralBody closed → ¬ closed <+: body) (mark : Mark) :
    blankFrom .literal mark body = .ok body := by
  cases body with
  | nil => rfl
  | cons c others =>
      by_cases isQuote : c = '"'
      · subst isQuote
        exact absurd (List.prefix_append ['"'] others) (isOpen _ .close)
      · by_cases isBackslash : c = '\\'
        · subst isBackslash
          cases others with
          | nil => rfl
          | cons d rest =>
              have restOpen : ∀ closed, LiteralBody closed → ¬ closed <+: rest := by
                intro closed isBody inside
                refine isOpen _ (.escape d isBody) ?_
                exact (List.prefix_cons_inj _).mpr ((List.prefix_cons_inj _).mpr inside)
              have below := blankFrom_openLiteral restOpen ((mark.after '\\').after d)
              simp [blankFrom, below, Functor.map, Except.map]
        · have othersOpen : ∀ closed, LiteralBody closed → ¬ closed <+: others := by
            intro closed isBody inside
            exact isOpen _ (.plain isQuote isBackslash isBody) ((List.prefix_cons_inj _).mpr inside)
          have below := blankFrom_openLiteral othersOpen (mark.after c)
          simp [blankFrom, isQuote, isBackslash, below, Functor.map, Except.map]
termination_by body.length

/-- A character that opens neither a literal nor a comment stays. -/
theorem blankFrom_single {c : Char} {rest : List Char} (noQuote : c ≠ '"')
    (noLine : ¬ ['/', '/'] <+: c :: rest) (noBlock : ¬ ['/', '*'] <+: c :: rest) (mark : Mark) :
    blankFrom .plain mark (c :: rest) = (c :: ·) <$> blankFrom .plain (mark.after c) rest := by
  rw [blankFrom]
  · exact noQuote
  · rintro more rfl rfl
    exact noLine (List.prefix_append ['/', '/'] more)
  · rintro more rfl rfl
    exact noBlock (List.prefix_append ['/', '*'] more)

/-- A block comment that nothing closes fails with the mark of its opener. -/
theorem blankFrom_openBlock {body : List Char} (noCloser : ¬ ['*', '/'] <:+: body)
    (opening mark : Mark) : blankFrom (.blockComment opening) mark body = .error opening := by
  induction body generalizing mark with
  | nil => rfl
  | cons c others inductionHypothesis =>
      have othersOpen : ¬ ['*', '/'] <:+: others := fun inside =>
        noCloser (inside.trans (List.suffix_cons c others).isInfix)
      rw [blankFrom, inductionHypothesis othersOpen]
      · rfl
      · rintro more rfl rfl
        exact noCloser (List.prefix_append ['*', '/'] more).isInfix

/-- One step: the first segment is blanked if it is a comment, and what follows it is blanked from
the mark behind it on. -/
theorem First.blankFrom_eq {text rest : List Char} {segment : Segment}
    (first : First text segment rest) (mark : Mark) :
    blankFrom .plain mark text =
      (segment.blanked ++ ·) <$> blankFrom .plain (mark.afterAll segment.text) rest := by
  cases first with
  | literal isBody =>
      rw [blankFrom, isBody.blankFrom_eq]
      simp [Segment.blanked, Segment.text, Functor.map_map]
  | openLiteral isOpen =>
      have inside := blankFrom_openLiteral isOpen (mark.after '"')
      simp [blankFrom, inside, Segment.blanked, Segment.text, Functor.map, Except.map]
  | lineComment oneLine ends =>
      rw [blankFrom, blankFrom_lineComment oneLine, blankFrom_lineComment_end _ ends]
      simp [Segment.blanked, Segment.text, Functor.map_map]
  | blockComment noCloser =>
      rw [blockComment_append, blankFrom, blankFrom_blockComment noCloser]
      simp [Segment.blanked, Segment.text, Functor.map_map, Comment.blockComment]
  | single noQuote noLine noBlock => exact blankFrom_single noQuote noLine noBlock mark

theorem OpenBlock.blankFrom_eq {text : List Char} (isOpen : OpenBlock text) (mark : Mark) :
    blankFrom .plain mark text = .error mark := by
  cases isOpen with
  | intro noCloser =>
      rw [blankFrom, blankFrom_openBlock noCloser]
      rfl

/-- The whole run: each segment is blanked if it is a comment, unless a block comment is left over,
which fails with the mark of its opener. -/
theorem Cut.blankFrom_eq {text remainder : List Char} {segments : List Segment}
    (cut : Cut text segments remainder) (mark : Mark) :
    blankFrom .plain mark text =
      if remainder = [] then .ok (segments.flatMap Segment.blanked)
      else .error (mark.afterAll (segments.flatMap Segment.text)) := by
  induction cut generalizing mark with
  | finish => rfl
  | left isOpen =>
      have isText := isOpen.blankFrom_eq mark
      cases isOpen
      exact isText
  | next first _ inductionHypothesis =>
      rw [first.blankFrom_eq, inductionHypothesis, List.flatMap_cons, List.flatMap_cons,
        Mark.afterAll_append]
      split <;> rfl

/-! ### Marks as counts -/

/-- The mark behind a text: its line ends, and the characters since the last of them, are counted
from one. -/
def Mark.behind (text : List Char) : Mark :=
  ⟨text.count '\n' + 1, (text.reverse.takeWhile (· ≠ '\n')).length + 1⟩

theorem Mark.behind_append_singleton (text : List Char) (c : Char) :
    behind (text ++ [c]) = (behind text).after c := by
  by_cases isEnd : c = '\n'
  · subst isEnd
    simp [behind, after]
  · simp [behind, after, isEnd, List.count_append]

theorem Mark.afterAll_start (text : List Char) : start.afterAll text = behind text := by
  induction text using List.reverseRecOn with
  | nil => rfl
  | append_singleton text c inductionHypothesis =>
      rw [behind_append_singleton, ← inductionHypothesis, afterAll_append]
      rfl

/-! ### Bytes -/

/-- The bytes of a text. -/
def bytes (text : List Char) : List UInt8 := text.flatMap String.utf8EncodeChar

/-- What becomes of a byte of a comment: line ends stay, all else becomes a blank. -/
def blankByte (byte : UInt8) : UInt8 := if byte = 10 ∨ byte = 13 then byte else 32

/-- For each byte of the segments, whether it belongs to a comment. -/
def inComment (segments : List Segment) : List Bool :=
  segments.flatMap fun segment =>
    List.replicate (bytes segment.text).length segment.isComment

theorem bytes_append (first second : List Char) :
    bytes (first ++ second) = bytes first ++ bytes second := List.flatMap_append

theorem inComment_cons (segment : Segment) (others : List Segment) :
    inComment (segment :: others) =
      List.replicate (bytes segment.text).length segment.isComment ++ inComment others :=
  List.flatMap_cons

theorem bytes_flatMap_text_cons (segment : Segment) (others : List Segment) :
    bytes ((segment :: others).flatMap Segment.text) =
      bytes segment.text ++ bytes (others.flatMap Segment.text) := by
  rw [List.flatMap_cons, bytes_append]

/-- A character of several bytes has none of ASCII. -/
theorem toNat_of_mem_utf8EncodeChar {c : Char} {byte : UInt8}
    (membership : byte ∈ String.utf8EncodeChar c) : byte.toNat = c.toNat ∨ 128 ≤ byte.toNat := by
  have value : c.val.toNat = c.toNat := rfl
  unfold String.utf8EncodeChar at membership
  dsimp only at membership
  rw [value] at membership
  split at membership
  · rw [List.mem_singleton] at membership
    subst membership
    left
    rw [UInt8.toNat_ofNat']
    omega
  · right
    split at membership
    · simp only [List.mem_cons, List.not_mem_nil, or_false] at membership
      rcases membership with rfl | rfl <;> rw [UInt8.toNat_ofNat'] <;> omega
    · split at membership
      · simp only [List.mem_cons, List.not_mem_nil, or_false] at membership
        rcases membership with rfl | rfl | rfl <;> rw [UInt8.toNat_ofNat'] <;> omega
      · simp only [List.mem_cons, List.not_mem_nil, or_false] at membership
        rcases membership with rfl | rfl | rfl | rfl <;> rw [UInt8.toNat_ofNat'] <;> omega

theorem bytes_replicate_blank (count : Nat) :
    bytes (List.replicate count ' ') = List.replicate count 32 := by
  induction count with
  | zero => rfl
  | succ count inductionHypothesis =>
      rw [List.replicate_succ, List.replicate_succ, ← inductionHypothesis]
      rfl

/-- Blanking a character blanks each of its bytes. -/
theorem bytes_blank (c : Char) : bytes (blank c) = (String.utf8EncodeChar c).map blankByte := by
  by_cases lineEnd : c = '\n' ∨ c = '\r'
  · rcases lineEnd with rfl | rfl <;> decide
  · have allBlank : ∀ byte ∈ String.utf8EncodeChar c, blankByte byte = 32 := by
      intro byte membership
      have range := toNat_of_mem_utf8EncodeChar membership
      refine if_neg ?_
      rintro (rfl | rfl)
      · exact lineEnd (.inl (Char.toNat_inj.mp (range.resolve_right (by decide)).symm))
      · exact lineEnd (.inr (Char.toNat_inj.mp (range.resolve_right (by decide)).symm))
    rw [blank, if_neg lineEnd, bytes_replicate_blank, ← String.length_utf8EncodeChar,
      List.map_eq_replicate_iff.mpr allBlank]

theorem bytes_flatMap_blank (content : List Char) :
    bytes (content.flatMap blank) = (bytes content).map blankByte := by
  induction content with
  | nil => rfl
  | cons c rest inductionHypothesis =>
      rw [List.flatMap_cons, bytes_append, bytes_blank, inductionHypothesis, ← List.map_append]
      rfl

theorem Segment.bytes_blanked (segment : Segment) :
    bytes segment.blanked =
      (bytes segment.text).map fun byte => if segment.isComment then blankByte byte else byte := by
  cases segment with
  | comment content => exact bytes_flatMap_blank content
  | literal content => exact (List.map_id' _).symm
  | single c => exact (List.map_id' _).symm

theorem zipWith_replicate_length {α β γ : Type} (f : α → β → γ) (a : α) (items : List β) :
    List.zipWith f (List.replicate items.length a) items = items.map (f a) := by
  induction items with
  | nil => rfl
  | cons item rest inductionHypothesis =>
      rw [List.length_cons, List.replicate_succ, List.zipWith_cons_cons, inductionHypothesis,
        List.map_cons]

/-- Blanking goes byte by byte. -/
theorem bytes_flatMap_blanked (segments : List Segment) :
    bytes (segments.flatMap Segment.blanked) =
      List.zipWith (fun isHidden byte => if isHidden then blankByte byte else byte)
        (inComment segments) (bytes (segments.flatMap Segment.text)) := by
  induction segments with
  | nil => rfl
  | cons segment others inductionHypothesis =>
      rw [bytes_flatMap_text_cons, inComment_cons, List.zipWith_append List.length_replicate,
        List.flatMap_cons, bytes_append, inductionHypothesis, segment.bytes_blanked,
        zipWith_replicate_length]

theorem length_inComment (segments : List Segment) :
    (inComment segments).length = (bytes (segments.flatMap Segment.text)).length := by
  induction segments with
  | nil => rfl
  | cons segment others inductionHypothesis =>
      rw [bytes_flatMap_text_cons, inComment_cons, List.length_append, List.length_append,
        List.length_replicate, inductionHypothesis]

theorem blankByte_eq_lineEnd_iff (byte : UInt8) : blankByte byte = 10 ↔ byte = 10 := by
  unfold blankByte
  split
  · rfl
  · rename_i noEnd
    constructor
    · intro isBlank
      cases isBlank
    · intro isEnd
      exact absurd (.inl isEnd) noEnd

/-- Lines start where they start without comments. -/
theorem getElem?_zipWith_blankByte (hidden : List Bool) (text : List UInt8)
    (sameLength : hidden.length = text.length) (offset : Nat) :
    (List.zipWith (fun isHidden byte => if isHidden then blankByte byte else byte) hidden
      text)[offset]? = some 10 ↔ text[offset]? = some 10 := by
  have shown (isHidden : Bool) (byte : UInt8) :
      (if isHidden then blankByte byte else byte) = 10 ↔ byte = 10 := by
    cases isHidden with
    | false => rfl
    | true => exact blankByte_eq_lineEnd_iff byte
  rw [List.getElem?_zipWith_eq_some]
  constructor
  · rintro ⟨isHidden, byte, -, found, ends⟩
    rw [found, (shown isHidden byte).mp ends]
  · intro found
    have inText : offset < text.length := (List.getElem?_eq_some_iff.mp found).1
    have inHidden : offset < hidden.length := sameLength ▸ inText
    exact ⟨hidden[offset], 10, List.getElem?_eq_getElem inHidden, found, (shown _ 10).mpr rfl⟩

/-- Every text is cut in exactly one way into literals, comments and single characters, with at most
an open block comment left over.  If none is left over, blanking the text blanks each byte of its
comments that ends no line and leaves every other byte as it is, where it is, so lines start at the
same offsets.  Otherwise blanking fails with the mark of the open comment. -/
theorem blankAll_follows_cut (text : List Char) :
    ∃ segments remainder, Cut text segments remainder ∧
      (∀ others otherRemainder, Cut text others otherRemainder →
        others = segments ∧ otherRemainder = remainder) ∧
      (remainder = [] → ∃ blanked, blankAll text = .ok blanked ∧
        bytes blanked = List.zipWith
          (fun isHidden byte => if isHidden then blankByte byte else byte)
          (inComment segments) (bytes text) ∧
        (bytes blanked).length = (bytes text).length ∧
        ∀ offset : Nat, (bytes blanked)[offset]? = some 10 ↔ (bytes text)[offset]? = some 10) ∧
      (remainder ≠ [] → OpenBlock remainder ∧
        blankAll text = .error (Mark.behind (segments.flatMap Segment.text))) := by
  obtain ⟨segments, remainder, cut⟩ := exists_cut text
  refine ⟨segments, remainder, cut, fun _ _ other => other.unique cut, ?_, ?_⟩
  · rintro rfl
    have whole : text = segments.flatMap Segment.text := by
      rw [cut.text_eq, List.append_nil]
    have sameLength := length_inComment segments
    rw [← whole] at sameLength
    have blankedBytes := bytes_flatMap_blanked segments
    rw [← whole] at blankedBytes
    refine ⟨segments.flatMap Segment.blanked, ?_, blankedBytes, ?_, ?_⟩
    · rw [blankAll, cut.blankFrom_eq, if_pos rfl]
    · rw [blankedBytes, List.length_zipWith, sameLength, Nat.min_self]
    · intro offset
      rw [blankedBytes]
      exact getElem?_zipWith_blankByte _ _ sameLength offset
  · intro isLeft
    refine ⟨cut.openBlock isLeft, ?_⟩
    rw [blankAll, cut.blankFrom_eq, if_neg isLeft, Mark.afterAll_start]

/-- A closer needs a star of its own, and an opener inside a literal opens nothing. -/
example : blankAll "/*/é*/\"//\" // \r".toList = .ok "       \"//\"    \r".toList := by
  decide +kernel

end BotConfig.Comment
