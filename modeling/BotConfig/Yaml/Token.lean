/-!
Tokens of the indented document format, and the marks and flaws that its reading reports.
-/

namespace BotConfig.Yaml

/-- A place in a text: characters before it, lines before it, and characters before it on its
line. -/
structure Mark where
  index : Nat
  line : Nat
  column : Nat
deriving DecidableEq, Inhabited

/-- Whether a mark is at the very start of a text, which messages leave out. -/
def Mark.isOrigin (mark : Mark) : Bool := mark.line == 0 && mark.column == 0

/-- A mark as messages write it, counted from one. -/
def Mark.text (mark : Mark) : String :=
  "line " ++ toString (mark.line + 1) ++ " column " ++ toString (mark.column + 1)

/-- What is being read when a flaw shows, and where it started. -/
structure Context where
  activity : String
  start : Mark

/-- A flaw in the outer form of a document. -/
structure Flaw where
  problem : String
  mark : Mark
  /-- The byte offset of a character that is not allowed at all. -/
  offset : Nat
  context : Option Context

/-- The wording of a flaw with the places that it concerns. -/
def Flaw.message (flaw : Flaw) : String :=
  let place :=
    if !flaw.mark.isOrigin then " at " ++ flaw.mark.text
    else if flaw.offset ≠ 0 then " at position " ++ toString flaw.offset
    else ""
  let context :=
    match flaw.context with
    | none => ""
    | some context =>
        let sameLine := context.start.line == flaw.mark.line
        let sameColumn := context.start.column == flaw.mark.column
        ", " ++ context.activity ++
          if context.start.isOrigin || (sameLine && sameColumn) then ""
          else " at " ++ context.start.text
  flaw.problem ++ place ++ context

/-- How a scalar is written. -/
inductive Style where
  | plain
  | singleQuoted
  | doubleQuoted
  | literal
  | folded
deriving DecidableEq

/-- The kinds of token. -/
inductive TokenKind where
  | streamStart
  | streamEnd
  | versionDirective (major minor : Nat)
  | tagDirective (handle expansion : String)
  | documentStart
  | documentEnd
  | blockSequenceStart
  | blockMappingStart
  | blockEnd
  | flowSequenceStart
  | flowSequenceEnd
  | flowMappingStart
  | flowMappingEnd
  | blockEntry
  | flowEntry
  | key
  | value
  | alias (name : String)
  | anchor (name : String)
  | tag (handle suffix : String)
  | scalar (content : String) (style : Style)

/-- A token and the marks around it. -/
structure Token where
  kind : TokenKind
  start : Mark
  finish : Mark

/-- Characters that end a line. -/
def isBreak (c : Char) : Bool :=
  c == '\n' || c == '\r' || c == '\u0085' || c == '\u2028' || c == '\u2029'

/-- The blank and the tab. -/
def isBlank (c : Char) : Bool := c == ' ' || c == '\t'

/-- The character that stands for the end of the text. -/
def endMarker : Char := '\x00'

/-- Blanks, line ends and the end of the text. -/
def isBlankOrEnd (c : Char) : Bool := isBlank c || isBreak c || c == endMarker

/-- Line ends and the end of the text. -/
def isBreakOrEnd (c : Char) : Bool := isBreak c || c == endMarker

/-- The characters of names. -/
def isName (c : Char) : Bool := c.isAlphanum || c == '_' || c == '-'

/-- The characters that a document may hold. -/
def isAllowed (c : Char) : Bool :=
  let code := c.toNat
  code == 9 || code == 10 || code == 13 || (32 ≤ code && code ≤ 126) || code == 0x85 ||
    (0xA0 ≤ code && code ≤ 0xFFFD) || 0x10000 ≤ code

end BotConfig.Yaml
