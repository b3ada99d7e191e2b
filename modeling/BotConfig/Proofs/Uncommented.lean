import BotConfig.Proofs.Segments

/-!
Blanked texts hold no comments.

A blanked text is cut the way the text was, but for its comments, which fall into single blanks.
Blanks open nothing, and what stands before a comment sees a blank where the opener was, so no
comment and no literal begins that did not begin before.  A blanked text is its own blanking.
-/

namespace BotConfig.Comment

/-! ### Segments of a blanked text -/

/-- The segments that become of a segment: a comment falls into single blanks. -/
def Segment.bared : Segment → List Segment
  | .comment content => (content.flatMap blank).map .single
  | segment => [segment]

/-- The content of a literal. -/
def Segment.literal? : Segment → Option (List Char)
  | .literal content => some content
  | _ => none

theorem Segment.isComment_of_mem_bared {segment part : Segment} (isPart : part ∈ segment.bared) :
    part.isComment = false := by
  cases segment with
  | comment content =>
      obtain ⟨c, -, rfl⟩ := List.mem_map.mp isPart
      rfl
  | literal content =>
      rw [List.mem_singleton.mp isPart]
      rfl
  | single c =>
      rw [List.mem_singleton.mp isPart]
      rfl

theorem Segment.filterMap_literal?_bared (segment : Segment) :
    segment.bared.filterMap Segment.literal? = segment.literal?.toList := by
  cases segment with
  | comment content =>
      rw [Segment.bared, List.filterMap_map]
      exact List.filterMap_eq_nil_iff.mpr fun _ _ => rfl
  | literal content => rfl
  | single c => rfl

/-- Where no segment is a comment, nothing is blanked. -/
theorem flatMap_blanked_eq_text {segments : List Segment}
    (plain : ∀ segment ∈ segments, segment.isComment = false) :
    segments.flatMap Segment.blanked = segments.flatMap Segment.text := by
  induction segments with
  | nil => rfl
  | cons segment others inductionHypothesis =>
      obtain ⟨first, rest⟩ := List.forall_mem_cons.mp plain
      rw [List.flatMap_cons, List.flatMap_cons, inductionHypothesis rest]
      cases segment with
      | comment content => cases first
      | literal content => rfl
      | single c => rfl

/-! ### The cut of a blanked text -/

/-- A text may stand in for another one behind a character: it ends if the other one does, and it
brings no slash and no star to its front. -/
structure StandsIn (blanked text : List Char) : Prop where
  ends : text = [] → blanked = []
  opens : ∀ c, c = '/' ∨ c = '*' → blanked.head? = some c → text.head? = some c

/-- A segment opens nothing in a blanked text that it does not open in the text. -/
theorem First.standsIn {text rest : List Char} {segment : Segment}
    (first : First text segment rest) (others : List Char) :
    StandsIn (segment.blanked ++ others) text where
  ends := by
    rintro rfl
    cases first.length_lt
  opens := by
    intro c opener isHead
    cases first with
    | literal => exact isHead
    | openLiteral => exact isHead
    | lineComment =>
        cases isHead
        rcases opener with isBlank | isBlank <;> cases isBlank
    | blockComment =>
        cases isHead
        rcases opener with isBlank | isBlank <;> cases isBlank
    | single => exact isHead

theorem Cut.standsIn {text remainder : List Char} {segments : List Segment}
    (cut : Cut text segments remainder) (isWhole : remainder = []) :
    StandsIn (segments.flatMap Segment.blanked) text := by
  cases cut with
  | finish => exact ⟨fun _ => rfl, fun _ _ isHead => isHead⟩
  | left isOpen =>
      subst isWhole
      cases isOpen
  | next first _ => exact first.standsIn _

/-- Blanks are cut one by one. -/
theorem Cut.blanks {blanks rest remainder : List Char} {segments : List Segment}
    (allBlank : AllBlank blanks) (cut : Cut rest segments remainder) :
    Cut (blanks ++ rest) (blanks.map Segment.single ++ segments) remainder := by
  induction blanks with
  | nil => exact cut
  | cons c others inductionHypothesis =>
      obtain ⟨isBlank, othersBlank⟩ := List.forall_mem_cons.mp allBlank
      obtain ⟨noQuote, noSlash⟩ := isBare_of_isBlank isBlank
      refine .next (.single noQuote ?_ ?_) (inductionHypothesis othersBlank)
      · exact fun isLine => noSlash (List.cons_prefix_cons.mp isLine).1.symm
      · exact fun isBlock => noSlash (List.cons_prefix_cons.mp isBlock).1.symm

/-- What a character opens in front of a text it opens in front of the one that the text stands in
for. -/
theorem StandsIn.opens_of_prefix {blanked text : List Char} (standsIn : StandsIn blanked text)
    {c second : Char} (opener : second = '/' ∨ second = '*')
    (isOpener : ['/', second] <+: c :: blanked) : ['/', second] <+: c :: text := by
  obtain ⟨rfl, isHead⟩ := List.cons_prefix_cons.mp isOpener
  obtain ⟨rest, rfl⟩ := isHead
  obtain ⟨others, rfl⟩ := List.head?_eq_some_iff.mp (standsIn.opens second opener rfl)
  exact List.prefix_append ['/', second] others

/-- One step: the first segment is cut off the blanked text as well, or falls into single blanks if
it is a comment. -/
theorem First.cut_blanked {text rest blanked remainder : List Char} {segment : Segment}
    {others : List Segment} (first : First text segment rest) (standsIn : StandsIn blanked rest)
    (cut : Cut blanked others remainder) :
    Cut (segment.blanked ++ blanked) (segment.bared ++ others) remainder := by
  cases first with
  | literal isBody => exact .next (.literal isBody) cut
  | @openLiteral body isOpen =>
      obtain rfl := standsIn.ends rfl
      change Cut ('"' :: (body ++ [])) _ _
      rw [List.append_nil]
      exact .next (.openLiteral isOpen) cut
  | lineComment => exact .blanks (allBlank_flatMap_blank _) cut
  | blockComment => exact .blanks (allBlank_flatMap_blank _) cut
  | single noQuote noLine noBlock =>
      refine .next (.single noQuote ?_ ?_) cut
      · exact fun isLine => noLine (standsIn.opens_of_prefix (.inl rfl) isLine)
      · exact fun isBlock => noBlock (standsIn.opens_of_prefix (.inr rfl) isBlock)

/-- The whole run: a blanked text is cut the way the text was, with single blanks for comments. -/
theorem Cut.cut_blanked {text remainder : List Char} {segments : List Segment}
    (cut : Cut text segments remainder) (isWhole : remainder = []) :
    Cut (segments.flatMap Segment.blanked) (segments.flatMap Segment.bared) [] := by
  induction cut with
  | finish => exact .finish
  | left isOpen =>
      subst isWhole
      cases isOpen
  | next first below inductionHypothesis =>
      rw [List.flatMap_cons, List.flatMap_cons]
      exact first.cut_blanked (below.standsIn isWhole) (inductionHypothesis isWhole)

/-- What becomes of the segments of a text holds no comment and the same literals. -/
theorem flatMap_bared (segments : List Segment) :
    (∀ segment ∈ segments.flatMap Segment.bared, segment.isComment = false) ∧
      (segments.flatMap Segment.bared).filterMap Segment.literal? =
        segments.filterMap Segment.literal? := by
  constructor
  · intro part isPart
    obtain ⟨segment, -, inside⟩ := List.mem_flatMap.mp isPart
    exact Segment.isComment_of_mem_bared inside
  · induction segments with
    | nil => rfl
    | cons segment others inductionHypothesis =>
        rw [List.flatMap_cons, List.filterMap_append, segment.filterMap_literal?_bared,
          inductionHypothesis]
        cases segment <;> rfl

/-! ### Blanking twice -/

/-- A blanked text stays as it is when it is blanked again.  It is cut in one way only: as the text
was, but with single blanks for the comments.  So it holds no comment, none is left open at its end,
and its literals are those of the text. -/
theorem blankAll_blanked {text blanked : List Char} (blanks : blankAll text = .ok blanked) :
    blankAll blanked = .ok blanked ∧
    ∃ segments, Cut text segments [] ∧ Cut blanked (segments.flatMap Segment.bared) [] ∧
      (∀ others remainder, Cut blanked others remainder →
        others = segments.flatMap Segment.bared ∧ remainder = []) ∧
      (∀ segment ∈ segments.flatMap Segment.bared, segment.isComment = false) ∧
      (segments.flatMap Segment.bared).filterMap Segment.literal? =
        segments.filterMap Segment.literal? := by
  obtain ⟨segments, remainder, cut⟩ := exists_cut text
  obtain ⟨isWhole, isBlanked⟩ : remainder = [] ∧ segments.flatMap Segment.blanked = blanked := by
    rw [blankAll, cut.blankFrom_eq] at blanks
    split at blanks
    · rename_i isWhole
      exact ⟨isWhole, Except.ok.inj blanks⟩
    · cases blanks
  have again := cut.cut_blanked isWhole
  obtain ⟨noComment, sameLiterals⟩ := flatMap_bared segments
  have stays : blankAll (segments.flatMap Segment.blanked) =
      .ok (segments.flatMap Segment.blanked) := by
    rw [blankAll, again.blankFrom_eq, if_pos rfl, flatMap_blanked_eq_text noComment, again.text_eq,
      List.append_nil]
  subst isWhole isBlanked
  exact ⟨stays, segments, cut, again, fun _ _ other => other.unique again, noComment, sameLiterals⟩

/-- Comments with quotes, openers and a character of two bytes, one of them behind a slash and a
blank. -/
theorem blankAll_blanked_division :
    blankAll "/ /*\"é*/*\"//\" // \"\r".toList = .ok "/        *\"//\"     \r".toList ∧
    blankAll "/        *\"//\"     \r".toList = .ok "/        *\"//\"     \r".toList := by
  have blanks : blankAll "/ /*\"é*/*\"//\" // \"\r".toList =
      .ok "/        *\"//\"     \r".toList := by
    decide +kernel
  exact ⟨blanks, (blankAll_blanked blanks).1⟩

end BotConfig.Comment
