/-!
Comments in documents.

A comment runs from `//` to the end of its line or from `/*` to the next `*/`; both openers are
plain text inside a quoted literal.  Comments are blanked and not cut, so every remaining
character keeps its byte offset and its line.
-/

namespace BotConfig.Comment

/-- A place in a text: the line and the character of the line, both counted from one. -/
structure Mark where
  line : Nat
  column : Nat
deriving DecidableEq, Inhabited

/-- The mark of the first character. -/
def Mark.start : Mark := ⟨1, 1⟩

/-- The mark of the character after `c`. -/
def Mark.after (mark : Mark) (c : Char) : Mark :=
  if c = '\n' then ⟨mark.line + 1, 1⟩ else ⟨mark.line, mark.column + 1⟩

/-- What a character is part of. -/
inductive Mode where
  | plain
  | literal
  | escaped
  | lineComment
  | blockComment (opening : Mark)
deriving DecidableEq

/-- A character of a comment: line ends stay, all else becomes as many blanks as it has bytes. -/
def blank (c : Char) : List Char :=
  if c = '\n' ∨ c = '\r' then [c] else List.replicate c.utf8Size ' '

/-- Blank the comments of the rest of a text. Fails with the mark of a block comment that is left
open. -/
def blankFrom : Mode → Mark → List Char → Except Mark (List Char)
  | .blockComment opening, _, [] => .error opening
  | _, _, [] => .ok []
  | .plain, mark, '"' :: rest => ('"' :: ·) <$> blankFrom .literal (mark.after '"') rest
  | .plain, mark, '/' :: '/' :: rest =>
      (' ' :: ' ' :: ·) <$> blankFrom .lineComment ((mark.after '/').after '/') rest
  | .plain, mark, '/' :: '*' :: rest =>
      (' ' :: ' ' :: ·) <$> blankFrom (.blockComment mark) ((mark.after '/').after '*') rest
  | .plain, mark, c :: rest => (c :: ·) <$> blankFrom .plain (mark.after c) rest
  | .literal, mark, c :: rest =>
      let next := if c = '\\' then Mode.escaped else if c = '"' then .plain else .literal
      (c :: ·) <$> blankFrom next (mark.after c) rest
  | .escaped, mark, c :: rest => (c :: ·) <$> blankFrom .literal (mark.after c) rest
  | .lineComment, mark, c :: rest =>
      let next := if c = '\n' then Mode.plain else .lineComment
      (blank c ++ ·) <$> blankFrom next (mark.after c) rest
  | .blockComment _, mark, '*' :: '/' :: rest =>
      (' ' :: ' ' :: ·) <$> blankFrom .plain ((mark.after '*').after '/') rest
  | .blockComment opening, mark, c :: rest =>
      (blank c ++ ·) <$> blankFrom (.blockComment opening) (mark.after c) rest

/-- A text with its comments blanked. -/
def blankAll (text : List Char) : Except Mark (List Char) := blankFrom .plain .start text

end BotConfig.Comment
