import BotConfig.Yaml.Token

/-!
Cutting a text into tokens.

Indentation is made explicit by start and end tokens of block collections.  A key is recognised
only when the colon after it is found, so its token is inserted before tokens that are already
waiting; a position that may turn out to be a key is remembered until then.
-/

namespace BotConfig.Yaml

/-- A position where a key without explicit indicator may have started. -/
structure PossibleKey where
  possible : Bool
  required : Bool
  tokenNumber : Nat
  mark : Mark
deriving Inhabited

/-- How far a text has been cut into tokens. -/
structure Lexer where
  /-- The length of the whole text. -/
  size : Nat
  rest : List Char
  mark : Mark
  started : Bool
  flowLevel : Nat
  waiting : List Token
  taken : Nat
  indent : Int
  indents : List Int
  keyAllowed : Bool
  keys : List PossibleKey

/-- A step of cutting a text into tokens. -/
abbrev Scan := StateT Lexer (Except Flaw)

namespace Scan

/-- The state before a text. -/
def initial (text : List Char) : Lexer where
  size := text.length
  rest := text
  mark := ⟨0, 0, 0⟩
  started := false
  flowLevel := 0
  waiting := []
  taken := 0
  indent := -1
  indents := []
  keyAllowed := false
  keys := []

/-- Fail at the current mark. -/
def failHere {α : Type} (context : Option Context) (problem : String) : Scan α := do
  throw ⟨problem, (← get).mark, 0, context⟩

/-- Fail at the current mark while reading something that started earlier. -/
def failIn {α : Type} (activity : String) (start : Mark) (problem : String) : Scan α :=
  failHere (some ⟨activity, start⟩) problem

/-- The character some places ahead. -/
def peek (ahead : Nat) : Scan Char := return (← get).rest.getD ahead endMarker

/-- Whether the character some places ahead has a property. -/
def sees (ahead : Nat) (property : Char → Bool) : Scan Bool := return property (← peek ahead)

/-- Whether a character stands some places ahead. -/
def seesChar (ahead : Nat) (c : Char) : Scan Bool := return (← peek ahead) == c

/-- Move over one character of the current line. -/
def skip : Scan Unit :=
  modify fun s =>
    { s with
      rest := s.rest.tail
      mark := ⟨s.mark.index + 1, s.mark.line, s.mark.column + 1⟩ }

/-- Move over some characters of the current line. -/
def skipMany : Nat → Scan Unit
  | 0 => return ()
  | n + 1 => do skip; skipMany n

/-- Move over a line end, and give the characters that it contributes to a scalar. -/
def takeBreak : Scan (List Char) := do
  let s ← get
  match s.rest with
  | '\r' :: '\n' :: rest =>
      set { s with rest, mark := ⟨s.mark.index + 2, s.mark.line + 1, 0⟩ }
      return ['\n']
  | c :: rest =>
      if isBreak c then
        set { s with rest, mark := ⟨s.mark.index + 1, s.mark.line + 1, 0⟩ }
        return [if c == '\u2028' || c == '\u2029' then c else '\n']
      else return []
  | [] => return []

/-- Move over the characters that have a property, and give them. -/
def takeWhile (property : Char → Bool) : Scan (List Char) := do
  let s ← get
  let taken := s.rest.takeWhile fun c => property c && c != endMarker
  set { s with
    rest := s.rest.drop taken.length
    mark := ⟨s.mark.index + taken.length, s.mark.line, s.mark.column + taken.length⟩ }
  return taken

/-- Enough fuel for a loop that takes a character each time. -/
def fuel : Scan Nat := return (← get).size + 1

/-- Put a token behind the waiting ones. -/
def emit (kind : TokenKind) (start finish : Mark) : Scan Unit :=
  modify fun s => { s with waiting := s.waiting ++ [⟨kind, start, finish⟩] }

/-- Put a token at a place among the waiting ones, given by its number in the whole text. -/
def emitAt (number : Nat) (kind : TokenKind) (mark : Mark) : Scan Unit :=
  modify fun s =>
    let place := number - s.taken
    { s with waiting := s.waiting.take place ++ ⟨kind, mark, mark⟩ :: s.waiting.drop place }

/-- Whether a document indicator stands at the start of the current line. -/
def atDocumentIndicator : Scan Bool := do
  let s ← get
  if s.mark.column ≠ 0 then return false
  match s.rest with
  | '-' :: '-' :: '-' :: rest => return isBlankOrEnd (rest.headD endMarker)
  | '.' :: '.' :: '.' :: rest => return isBlankOrEnd (rest.headD endMarker)
  | _ => return false

/-! ### Keys and indentation -/

/-- A key stays on one line and is no longer than 1024 characters. -/
def dropStaleKeys : Scan Unit := do
  let s ← get
  let stale (key : PossibleKey) : Bool :=
    key.possible && (key.mark.line < s.mark.line || key.mark.index + 1024 < s.mark.index)
  match s.keys.reverse.find? fun key => stale key && key.required with
  | some key => failIn "while scanning a simple key" key.mark "could not find expected ':'"
  | none =>
      set { s with
        keys := s.keys.map fun key => if stale key then { key with possible := false } else key }

/-- Give up the possible key of the current level. -/
def dropKey : Scan Unit := do
  let s ← get
  match s.keys with
  | [] => return ()
  | key :: outer =>
      if key.possible && key.required then
        failIn "while scanning a simple key" key.mark "could not find expected ':'"
      else set { s with keys := { key with possible := false } :: outer }

/-- Remember that a key may start here. -/
def saveKey : Scan Unit := do
  let s ← get
  if s.keyAllowed then
    let required := s.flowLevel == 0 && s.indent == s.mark.column
    let key := ⟨true, required, s.taken + s.waiting.length, s.mark⟩
    dropKey
    modify fun s => { s with keys := key :: s.keys.tail }

/-- Set whether a key may start at the next token. -/
def allowKey (allowed : Bool) : Scan Unit := modify fun s => { s with keyAllowed := allowed }

/-- Open a block collection when a token stands further right than the current one. -/
def rollIndent (column : Nat) (number : Option Nat) (kind : TokenKind) (mark : Mark) :
    Scan Unit := do
  let s ← get
  if s.flowLevel == 0 && s.indent < column then
    set { s with indents := s.indent :: s.indents, indent := column }
    match number with
    | none => emit kind mark mark
    | some number => emitAt number kind mark

/-- Close the block collections that stand further right than a column. -/
def unrollTo (column : Int) : List Int → Scan Unit
  | [] => return ()
  | outer :: more => do
      let s ← get
      if s.flowLevel == 0 && column < s.indent then
        emit .blockEnd s.mark s.mark
        modify fun s => { s with indent := outer, indents := more }
        unrollTo column more

/-- Close the block collections that stand further right than a column. -/
def unrollIndent (column : Int) : Scan Unit := do unrollTo column (← get).indents

/-! ### Directives, anchors and tags -/

/-- The number in a version. -/
def versionNumber (start : Mark) : Scan Nat := do
  let activity := "while scanning a %YAML directive"
  let digits := (← get).rest.takeWhile Char.isDigit
  if 9 < digits.length then
    skipMany 9
    failIn activity start "found extremely long version number"
  else if digits.isEmpty then failIn activity start "did not find expected version number"
  else
    skipMany digits.length
    return digits.foldl (fun n c => 10 * n + (c.toNat - '0'.toNat)) 0

/-- The value of a hexadecimal digit. -/
def hexDigitValue? (c : Char) : Option Nat :=
  if c.isDigit then some (c.toNat - '0'.toNat)
  else if 'a' ≤ c ∧ c ≤ 'f' then some (c.toNat - 'a'.toNat + 10)
  else if 'A' ≤ c ∧ c ≤ 'F' then some (c.toNat - 'A'.toNat + 10)
  else none

/-- The bytes of one character that is written by percent signs and hexadecimal digits. -/
def escapedBytes (activity : String) (start : Mark) : Nat → Nat → Scan (List UInt8)
  | 0, _ => return []
  | fuel + 1, following => do
      let high := hexDigitValue? (← peek 1)
      let low := hexDigitValue? (← peek 2)
      match (← peek 0), high, low with
      | '%', some high, some low =>
          let octet := 16 * high + low
          let left ←
            if following = 0 then
              if octet < 0x80 then pure 0
              else if octet / 32 = 6 then pure 1
              else if octet / 16 = 14 then pure 2
              else if octet / 8 = 30 then pure 3
              else failIn activity start "found an incorrect leading UTF-8 octet"
            else if octet / 64 = 2 then pure (following - 1)
            else failIn activity start "found an incorrect trailing UTF-8 octet"
          skipMany 3
          let more ← if left = 0 then pure [] else escapedBytes activity start fuel left
          return octet.toUInt8 :: more
      | _, _, _ => failIn activity start "did not find URI escaped octet"

/-- The characters that may stand in a tag. -/
def isTagChar (bracketed : Bool) (c : Char) : Bool :=
  isName c || ";/?:@&=+$.%!~*'()".toList.contains c ||
    (bracketed && (c == ',' || c == '[' || c == ']'))

/-- The characters of the rest of a tag. -/
def tagChars (bracketed : Bool) (activity : String) (start : Mark) :
    Nat → List Char → Scan (List Char)
  | 0, done => return done.reverse
  | fuel + 1, done => do
      let c ← peek 0
      if c == '%' then
        let bytes := ByteArray.mk (← escapedBytes activity start 4 0).toArray
        let text := ((String.fromUTF8? bytes).getD "").toList
        tagChars bracketed activity start fuel (text.reverse ++ done)
      else if isTagChar bracketed c then
        skip
        tagChars bracketed activity start fuel (c :: done)
      else return done.reverse

/-- The rest of a tag after what was taken for its handle. The exclamation mark that starts the
handle is no part of it. -/
def tagRest (bracketed directive : Bool) (head : List Char) (start : Mark) : Scan String := do
  let activity := if directive then "while parsing a %TAG directive" else "while parsing a tag"
  let before := (← get).mark
  let text ← tagChars bracketed activity start (← fuel) head.tail.reverse
  if head.isEmpty && before == (← get).mark then
    failIn activity start "did not find expected tag URI"
  return String.ofList text

/-- The handle of a tag: an exclamation mark, a name and a second exclamation mark, of which a tag
may lack the last two. -/
def tagHandle (directive : Bool) (start : Mark) : Scan (List Char) := do
  if (← peek 0) != '!' then
    failIn (if directive then "while scanning a tag directive" else "while scanning a tag") start
      "did not find expected '!'"
  skip
  let name ← takeWhile isName
  if ← seesChar 0 '!' then
    skip
    return '!' :: name ++ ['!']
  else if directive && !name.isEmpty then
    failIn "while parsing a tag directive" start "did not find expected '!'"
  else return '!' :: name

/-- A directive line. -/
def directive : Scan Unit := do
  let start := (← get).mark
  let activity := "while scanning a directive"
  skip
  let name ← takeWhile isName
  if name.isEmpty then failIn activity start "could not find expected directive name"
  if !(← sees 0 isBlankOrEnd) then
    failIn activity start "found unexpected non-alphabetical character"
  let kind ←
    if name = "YAML".toList then
      let _ ← takeWhile isBlank
      let major ← versionNumber start
      if (← peek 0) != '.' then
        failIn "while scanning a %YAML directive" start
          "did not find expected digit or '.' character"
      skip
      let minor ← versionNumber start
      pure (TokenKind.versionDirective major minor)
    else if name = "TAG".toList then
      let _ ← takeWhile isBlank
      let handle ← tagHandle true start
      if !(← sees 0 isBlank) then
        failIn "while scanning a %TAG directive" start "did not find expected whitespace"
      let _ ← takeWhile isBlank
      let expansion ← tagRest true true [] start
      if !(← sees 0 isBlankOrEnd) then
        failIn "while scanning a %TAG directive" start
          "did not find expected whitespace or line break"
      pure (TokenKind.tagDirective (String.ofList handle) expansion)
    else failIn activity start "found unknown directive name"
  let finish := (← get).mark
  let _ ← takeWhile isBlank
  if ← seesChar 0 '#' then
    let _ ← takeWhile (!isBreak ·)
  if !(← sees 0 isBreakOrEnd) then
    failIn activity start "did not find expected comment or line break"
  let _ ← takeBreak
  emit kind start finish

/-- An anchor or an alias. -/
def anchor (isAlias : Bool) : Scan Unit := do
  let start := (← get).mark
  skip
  let name ← takeWhile isName
  let c ← peek 0
  if name.isEmpty || !(isBlankOrEnd c || "?:,]\x7d%@`".toList.contains c) then
    failIn (if isAlias then "while scanning an alias" else "while scanning an anchor") start
      "did not find expected alphabetic or numeric character"
  let name := String.ofList name
  emit (if isAlias then .alias name else .anchor name) start (← get).mark

/-- A tag. -/
def tag : Scan Unit := do
  let start := (← get).mark
  let (handle, suffix) ←
    if ← seesChar 1 '<' then
      skipMany 2
      let suffix ← tagRest true false [] start
      if (← peek 0) != '>' then
        failIn "while scanning a tag" start "did not find the expected '>'"
      skip
      pure ("", suffix)
    else
      let handle ← tagHandle false start
      if 1 < handle.length && handle.getLast? == some '!' then
        pure (String.ofList handle, ← tagRest false false [] start)
      else
        let suffix ← tagRest false false handle start
        pure (if suffix.isEmpty then ("", "!") else ("!", suffix))
  let c ← peek 0
  if !(isBlankOrEnd c || ((← get).flowLevel != 0 && c == ',')) then
    failIn "while scanning a tag" start "did not find expected whitespace or line break"
  emit (.tag handle suffix) start (← get).mark

/-! ### Scalars -/

/-- What a run of line ends contributes to a folded scalar: one line end is a blank, of several
the first one is dropped. -/
def foldBreaks (first following : List Char) : List Char :=
  if first.head? == some '\n' then
    if following.isEmpty then [' '] else following
  else first ++ following

/-- Skip the indentation of lines that hold nothing else. An indentation that is not known yet is
zero, and the widest line is looked for. -/
def blockIndentation (start : Mark) (indent : Nat) :
    Nat → Nat → List Char → Mark → Scan (Nat × List Char × Mark)
  | 0, widest, breaks, finish => return (widest, breaks, finish)
  | fuel + 1, widest, breaks, finish => do
      let s ← get
      let blanks := s.rest.takeWhile (· == ' ')
      let count := if indent = 0 then blanks.length else
        min blanks.length (indent - s.mark.column)
      skipMany count
      let column := (← get).mark.column
      let widest := max widest column
      if (indent = 0 || column < indent) && (← seesChar 0 '\t') then
        failIn "while scanning a block scalar" start
          "found a tab character where an indentation space is expected"
      if ← sees 0 isBreak then
        let ends ← takeBreak
        blockIndentation start indent fuel widest (breaks ++ ends) (← get).mark
      else return (widest, breaks, finish)

/-- The lines of a block scalar. Gives the text, the last line end and the line ends after it. -/
def blockLines (literal : Bool) (start : Mark) (indent : Nat) :
    Nat → List Char → List Char → List Char → Bool → Mark →
      Scan (List Char × List Char × List Char × Mark)
  | 0, text, lastBreak, breaks, _, finish => return (text, lastBreak, breaks, finish)
  | fuel + 1, text, lastBreak, breaks, blankBefore, finish => do
      let s ← get
      if s.mark.column = indent && !s.rest.isEmpty then
        let blankHere ← sees 0 isBlank
        let joined :=
          if !literal && lastBreak.head? == some '\n' && !blankBefore && !blankHere then
            if breaks.isEmpty then [' '] else []
          else lastBreak
        let line ← takeWhile (!isBreak ·)
        let text := text ++ joined ++ breaks ++ line
        let lastBreak ← takeBreak
        let mark := (← get).mark
        let (_, breaks, finish) ← blockIndentation start indent (← Scan.fuel) 0 [] mark
        blockLines literal start indent fuel text lastBreak breaks blankHere finish
      else return (text, lastBreak, breaks, finish)

/-- A literal or folded block scalar. -/
def blockScalar (literal : Bool) : Scan Unit := do
  let start := (← get).mark
  let activity := "while scanning a block scalar"
  skip
  let chompingOf (c : Char) : Option Bool :=
    if c == '+' then some true else if c == '-' then some false else none
  let increment : Scan Nat := do
    let c ← peek 0
    if c == '0' then failIn activity start "found an indentation indicator equal to 0"
    if c.isDigit then
      skip
      return c.toNat - '0'.toNat
    else return 0
  let early := chompingOf (← peek 0)
  if early.isSome then skip
  let increment ← increment
  let next ← peek 0
  let late := if early.isNone && increment ≠ 0 then chompingOf next else none
  if late.isSome then skip
  let chomping := early <|> late
  let _ ← takeWhile isBlank
  if ← seesChar 0 '#' then
    let _ ← takeWhile (!isBreak ·)
  if !(← sees 0 isBreakOrEnd) then
    failIn activity start "did not find expected comment or line break"
  let _ ← takeBreak
  let s ← get
  let outer := s.indent
  let known := if increment = 0 then 0 else (max outer 0).natAbs + increment
  let (widest, breaks, finish) ← blockIndentation start known (← fuel) 0 [] s.mark
  let indent :=
    if known = 0 then max (max widest (outer + 1).natAbs) 1 else known
  let (text, lastBreak, breaks, finish) ←
    blockLines literal start indent (← fuel) [] [] breaks false finish
  let tail :=
    match chomping with
    | some false => []
    | some true => lastBreak ++ breaks
    | none => lastBreak
  emit (.scalar (String.ofList (text ++ tail)) (if literal then .literal else .folded)) start finish

/-- The character that an escape of one letter stands for. -/
def simpleEscape? (c : Char) : Option Char :=
  match c with
  | '0' => some (Char.ofNat 0)
  | 'a' => some (Char.ofNat 7)
  | 'b' => some (Char.ofNat 8)
  | 't' => some '\t'
  | '\t' => some '\t'
  | 'n' => some '\n'
  | 'v' => some (Char.ofNat 11)
  | 'f' => some (Char.ofNat 12)
  | 'r' => some '\r'
  | 'e' => some (Char.ofNat 27)
  | ' ' => some ' '
  | '"' => some '"'
  | '/' => some '/'
  | '\\' => some '\\'
  | 'N' => some '\u0085'
  | '_' => some '\u00A0'
  | 'L' => some '\u2028'
  | 'P' => some '\u2029'
  | _ => none

/-- The number of digits of an escape by code. -/
def escapeDigits? (c : Char) : Option Nat :=
  match c with
  | 'x' => some 2
  | 'u' => some 4
  | 'U' => some 8
  | _ => none

/-- One escape of a double-quoted scalar. -/
def escape (start : Mark) : Scan Char := do
  let activity := "while parsing a quoted scalar"
  let c ← peek 1
  match simpleEscape? c, escapeDigits? c with
  | some plain, _ =>
      skipMany 2
      return plain
  | none, some count =>
      skipMany 2
      let rest := (← get).rest
      let digits := (List.range count).map fun k => hexDigitValue? (rest.getD k endMarker)
      if digits.any Option.isNone then
        failIn activity start "did not find expected hexdecimal number"
      let code := digits.foldl (fun n d => 16 * n + d.getD 0) 0
      if (0xD800 ≤ code && code ≤ 0xDFFF) || 0x10FFFF < code then
        failIn activity start "found invalid Unicode character escape code"
      skipMany count
      return Char.ofNat code
  | none, none => failIn activity start "found unknown escape character"

/-- The characters of a quoted scalar up to a blank, a line end or its closing quote. Gives
whether an escaped line end stopped it. -/
def quotedWord (single : Bool) (start : Mark) : Nat → List Char → Scan (List Char × Bool)
  | 0, text => return (text, false)
  | fuel + 1, text => do
      let c ← peek 0
      let next ← peek 1
      if isBlankOrEnd c then return (text, false)
      else if single && c == '\'' && next == '\'' then
        skipMany 2
        quotedWord single start fuel ('\'' :: text)
      else if c == (if single then '\'' else '"') then return (text, false)
      else if !single && c == '\\' && isBreak next then
        skip
        let _ ← takeBreak
        return (text, true)
      else if !single && c == '\\' then
        let escaped ← escape start
        quotedWord single start fuel (escaped :: text)
      else
        skip
        quotedWord single start fuel (c :: text)

/-- Blanks and line ends inside a scalar. -/
structure Gap where
  blanks : List Char
  first : List Char
  following : List Char
  broken : Bool

/-- The characters that a gap contributes to a scalar. -/
def Gap.folded (gap : Gap) : List Char :=
  if gap.broken then foldBreaks gap.first gap.following else gap.blanks

/-- Read the blanks and line ends at the current mark. In a plain scalar a tab must not stand left
of the indentation. -/
def gap (plainStart : Option (Mark × Int)) : Nat → Gap → Scan Gap
  | 0, g => return g
  | fuel + 1, g => do
      let c ← peek 0
      if isBlank c then
        if let some (start, indent) := plainStart then
          if g.broken && (← get).mark.column < indent && c == '\t' then
            failIn "while scanning a plain scalar" start
              "found a tab character that violates indentation"
        skip
        gap plainStart fuel (if g.broken then g else { g with blanks := g.blanks ++ [c] })
      else if isBreak c then
        let ends ← takeBreak
        gap plainStart fuel <|
          if g.broken then { g with following := g.following ++ ends }
          else { g with blanks := [], first := ends, broken := true }
      else return g

/-- The rest of a quoted scalar, reversed. -/
def quotedText (single : Bool) (start : Mark) : Nat → List Char → Scan (List Char)
  | 0, text => return text
  | fuel + 1, text => do
      let activity := "while scanning a quoted scalar"
      if ← atDocumentIndicator then failIn activity start "found unexpected document indicator"
      if (← get).rest.isEmpty then failIn activity start "found unexpected end of stream"
      let (text, broken) ← quotedWord single start (← Scan.fuel) text
      if ← seesChar 0 (if single then '\'' else '"') then return text
      let g ← gap none (← Scan.fuel) ⟨[], [], [], broken⟩
      quotedText single start fuel (g.folded.reverse ++ text)

/-- A quoted scalar. -/
def quotedScalar (single : Bool) : Scan Unit := do
  let start := (← get).mark
  skip
  let text ← quotedText single start (← fuel) []
  skip
  emit (.scalar (String.ofList text.reverse) (if single then .singleQuoted else .doubleQuoted))
    start (← get).mark

/-- The characters of a plain scalar up to a blank, a line end or an indicator that ends it. -/
def plainWord (start : Mark) : Nat → List Char → Scan (List Char)
  | 0, text => return text
  | fuel + 1, text => do
      let c ← peek 0
      let next ← peek 1
      let inFlow := (← get).flowLevel != 0
      if isBlankOrEnd c then return text
      else if inFlow && c == ':' && ",?[]\x7b\x7d".toList.contains next then
        failIn "while scanning a plain scalar" start "found unexpected ':'"
      else if (c == ':' && isBlankOrEnd next) ||
          (inFlow && ",[]\x7b\x7d".toList.contains c) then return text
      else
        skip
        plainWord start fuel (c :: text)

/-- The rest of a plain scalar, reversed, with the mark after its last character and whether a
line end followed it. -/
def plainText (start : Mark) (indent : Int) :
    Nat → List Char → Gap → Mark → Scan (List Char × Mark × Bool)
  | 0, text, g, finish => return (text, finish, g.broken)
  | fuel + 1, text, g, finish => do
      if (← atDocumentIndicator) || (← seesChar 0 '#') then return (text, finish, g.broken)
      let word ← plainWord start (← Scan.fuel) []
      let here := (← get).mark
      let (text, finish, g) :=
        if word.isEmpty then (text, finish, g)
        else (word ++ g.folded.reverse ++ text, here, ⟨[], [], [], false⟩)
      if !(← sees 0 fun c => isBlank c || isBreak c) then return (text, finish, g.broken)
      let g ← gap (some (start, indent)) (← Scan.fuel) g
      let s ← get
      if s.flowLevel == 0 && s.mark.column < indent then return (text, finish, g.broken)
      plainText start indent fuel text g finish

/-- A plain scalar. A line end after it lets a key start at the next token. -/
def plainScalar : Scan Unit := do
  let s ← get
  let (text, finish, broken) ←
    plainText s.mark (s.indent + 1) (← fuel) [] ⟨[], [], [], false⟩ s.mark
  emit (.scalar (String.ofList text.reverse) .plain) s.mark finish
  if broken then allowKey true

/-! ### Tokens -/

/-- Move over blanks, comments and line ends to the next token. -/
def toNextToken : Nat → Scan Unit
  | 0 => return ()
  | fuel + 1 => do
      let s ← get
      if s.mark.index = 0 && s.rest.head? == some '\uFEFF' then skip
      let tabs := s.flowLevel != 0 || !s.keyAllowed
      let _ ← takeWhile fun c => c == ' ' || (tabs && c == '\t')
      if ← seesChar 0 '#' then
        let _ ← takeWhile (!isBreak ·)
      if ← sees 0 isBreak then
        let _ ← takeBreak
        if (← get).flowLevel == 0 then allowKey true
        toNextToken fuel

/-- A token of fixed length. -/
def indicator (length : Nat) (kind : TokenKind) : Scan Unit := do
  let start := (← get).mark
  skipMany length
  emit kind start (← get).mark

/-- The end of the text. -/
def streamEnd : Scan Unit := do
  modify fun s =>
    if s.mark.column ≠ 0 then { s with mark := ⟨s.mark.index, s.mark.line + 1, 0⟩ } else s
  unrollIndent (-1)
  dropKey
  allowKey false
  let mark := (← get).mark
  emit .streamEnd mark mark

/-- The start of a flow collection. -/
def flowStart (kind : TokenKind) : Scan Unit := do
  saveKey
  modify fun s =>
    { s with keys := ⟨false, false, 0, ⟨0, 0, 0⟩⟩ :: s.keys, flowLevel := s.flowLevel + 1 }
  allowKey true
  indicator 1 kind

/-- The end of a flow collection. -/
def flowEnd (kind : TokenKind) : Scan Unit := do
  dropKey
  modify fun s =>
    if s.flowLevel = 0 then s else { s with flowLevel := s.flowLevel - 1, keys := s.keys.tail }
  allowKey false
  indicator 1 kind

/-- The dash before an item of a block sequence. -/
def blockEntry : Scan Unit := do
  let s ← get
  if s.flowLevel == 0 then
    if !s.keyAllowed then
      failHere none "block sequence entries are not allowed in this context"
    rollIndent s.mark.column none .blockSequenceStart s.mark
  dropKey
  allowKey true
  indicator 1 .blockEntry

/-- The question mark before a key. -/
def explicitKey : Scan Unit := do
  let s ← get
  if s.flowLevel == 0 then
    if !s.keyAllowed then failHere none "mapping keys are not allowed in this context"
    rollIndent s.mark.column none .blockMappingStart s.mark
  dropKey
  allowKey (s.flowLevel == 0)
  indicator 1 .key

/-- The colon before a value. If a key was possible, its token is put before it. -/
def value : Scan Unit := do
  let s ← get
  match s.keys with
  | key :: outer =>
      if key.possible then
        emitAt key.tokenNumber .key key.mark
        rollIndent key.mark.column (some key.tokenNumber) .blockMappingStart key.mark
        modify fun s => { s with keys := { key with possible := false } :: outer }
        allowKey false
      else
        if s.flowLevel == 0 then
          if !s.keyAllowed then failHere none "mapping values are not allowed in this context"
          rollIndent s.mark.column none .blockMappingStart s.mark
        allowKey (s.flowLevel == 0)
  | [] => return ()
  indicator 1 .value

/-- Whether a plain scalar may start at the current mark. -/
def plainMayStart : Scan Bool := do
  let s ← get
  let c ← peek 0
  let next ← peek 1
  let isIndicator := "-?:,[]\x7b\x7d#&*!|>'\"%@`".toList.contains c
  return !(isBlankOrEnd c || isIndicator) || (c == '-' && !isBlank next) ||
    (s.flowLevel == 0 && (c == '?' || c == ':') && !isBlankOrEnd next)

/-- Cut off the next token. -/
def nextToken : Scan Unit := do
  let s ← get
  if !s.started then
    set { s with
      started := true
      keyAllowed := true
      keys := [⟨false, false, 0, ⟨0, 0, 0⟩⟩] }
    emit .streamStart s.mark s.mark
    return
  toNextToken (← fuel)
  dropStaleKeys
  unrollIndent (← get).mark.column
  let s ← get
  let c ← peek 0
  let next ← peek 1
  let inFlow := s.flowLevel != 0
  if s.rest.isEmpty then streamEnd
  else if s.mark.column = 0 && c == '%' then
    unrollIndent (-1)
    dropKey
    allowKey false
    directive
  else if ← atDocumentIndicator then
    unrollIndent (-1)
    dropKey
    allowKey false
    indicator 3 (if c == '-' then .documentStart else .documentEnd)
  else if c == '[' then flowStart .flowSequenceStart
  else if c == '{' then flowStart .flowMappingStart
  else if c == ']' then flowEnd .flowSequenceEnd
  else if c == '}' then flowEnd .flowMappingEnd
  else if c == ',' then
    dropKey
    allowKey true
    indicator 1 .flowEntry
  else if c == '-' && isBlankOrEnd next then blockEntry
  else if c == '?' && (inFlow || isBlankOrEnd next) then explicitKey
  else if c == ':' && (inFlow || isBlankOrEnd next) then value
  else if c == '*' || c == '&' then
    saveKey
    allowKey false
    anchor (c == '*')
  else if c == '!' then
    saveKey
    allowKey false
    tag
  else if (c == '|' || c == '>') && !inFlow then
    dropKey
    allowKey true
    blockScalar (c == '|')
  else if c == '\'' || c == '"' then
    saveKey
    allowKey false
    quotedScalar (c == '\'')
  else if ← plainMayStart then
    saveKey
    allowKey false
    plainScalar
  else
    failIn "while scanning for the next token" s.mark "found character that cannot start any token"

/-- Cut off tokens until the first waiting one cannot be moved back by a key any more. -/
def fill : Nat → Scan Unit
  | 0 => return ()
  | fuel + 1 => do
      let s ← get
      if s.waiting.isEmpty then
        nextToken
        fill fuel
      else
        dropStaleKeys
        let s ← get
        if s.keys.any fun key => key.possible && key.tokenNumber == s.taken then
          nextToken
          fill fuel

/-- The next token, which stays waiting. -/
def peekToken : Scan Token := do
  fill (2 * (← fuel) + 2)
  match (← get).waiting with
  | token :: _ => return token
  | [] => failHere none "did not find expected token"

/-- Take the next token. -/
def takeToken : Scan Unit :=
  modify fun s => { s with waiting := s.waiting.tail, taken := s.taken + 1 }

end Scan

end BotConfig.Yaml
