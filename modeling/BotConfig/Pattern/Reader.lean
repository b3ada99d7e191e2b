import BotConfig.Binary64
import BotConfig.Pattern.Expression
import BotConfig.Pattern.Property
import BotConfig.Text.Classes

/-!
Reading patterns of pairs that are never traded.

The text is read from left to right with the flags that hold at each place.  Look-around and
references back to groups are not part of the language, and a pattern must be able to match whole
characters only.

A pattern stands for whole symbols: it is read as the middle part of an expression that starts at
the start of a symbol and ends at its end.
-/

namespace BotConfig.Pattern

/-- The flags that hold at a place of a pattern. -/
structure Flags where
  ignoreCase : Bool
  multiLine : Bool
  dotAll : Bool
  unicode : Bool
  returns : Bool
  verbose : Bool

/-- The flags at the start of a pattern. -/
def Flags.initial : Flags := ⟨false, false, false, true, false, false⟩

/-- The flags with the one of a letter changed. Whether repetitions are greedy makes no difference
to what matches. -/
def Flags.set? (flags : Flags) (letter : Char) (value : Bool) : Option Flags :=
  match letter with
  | 'i' => some { flags with ignoreCase := value }
  | 'm' => some { flags with multiLine := value }
  | 's' => some { flags with dotAll := value }
  | 'u' => some { flags with unicode := value }
  | 'R' => some { flags with returns := value }
  | 'x' => some { flags with verbose := value }
  | 'U' => some flags
  | _ => none

/-- How far a pattern has been read. -/
structure Reader where
  rest : List Char
  flags : Flags
  names : List String

/-- A step of reading a pattern, which fails if the pattern is not valid. -/
abbrev Read := StateT Reader Option

namespace Read

/-! ### Characters -/

/-- A text without the blanks and comments at its start. -/
def withoutBlanks (inComment : Bool) : List Char → List Char
  | [] => []
  | c :: rest =>
      if inComment then withoutBlanks (c != '\n') rest
      else if Text.isBlank c then withoutBlanks false rest
      else if c = '#' then withoutBlanks true rest
      else c :: rest

/-- Where blanks do not count, move over blanks and comments. -/
def skipBlanks : Read Unit :=
  modify fun reader =>
    if reader.flags.verbose then { reader with rest := withoutBlanks false reader.rest }
    else reader

/-- The next character, if there is one. -/
def peek? : Read (Option Char) := return (← get).rest.head?

/-- The next character, which must be there. -/
def peek : Read Char := do
  let some c ← peek? | failure
  return c

/-- Move over a character. -/
def advance : Read Unit := modify fun reader => { reader with rest := reader.rest.tail }

/-- Move over a character and the blanks after it. -/
def advanceBlanks : Read Unit := do
  advance
  skipBlanks

/-- Move over a text if it comes next. -/
def accept (text : String) : Read Bool := do
  let reader ← get
  if text.toList.isPrefixOf reader.rest then
    set { reader with rest := reader.rest.drop text.length }
    return true
  else return false

/-- Move over the first of two texts that comes next. -/
def acceptEither (first second : String) : Read Bool := do
  if ← accept first then return true else accept second

/-- The flags that hold here. -/
def flags : Read Flags := return (← get).flags

/-- Enough fuel for a loop that takes a character each time. -/
def fuel : Read Nat := return (← get).rest.length + 1

/-! ### Escapes and properties -/

/-- The smallest parts of a pattern. A character may be given by a code of two digits. -/
inductive Primitive where
  | literal (c : Char) (byTwoDigits : Bool)
  | anyChar
  | set (set : SymbolSet)
  | assertion (condition : Assertion)

/-- The value of a hexadecimal digit. -/
def hexDigit? (c : Char) : Option Nat :=
  if c.isDigit then some (c.toNat - '0'.toNat)
  else if 'a' ≤ c ∧ c ≤ 'f' then some (c.toNat - 'a'.toNat + 10)
  else if 'A' ≤ c ∧ c ≤ 'F' then some (c.toNat - 'A'.toNat + 10)
  else none

/-- The character of a code. -/
def ofCode (code : Nat) : Read Char :=
  if h : code.isValidChar then return Char.ofNatAux code h else failure

/-- So many hexadecimal digits. -/
def fixedHex : Nat → Nat → Read Nat
  | 0, code => return code
  | count + 1, code => do
      let some digit := hexDigit? (← peek) | failure
      advanceBlanks
      fixedHex count (16 * code + digit)

/-- Hexadecimal digits up to a closing brace. -/
def bracedHex : Nat → Bool → Nat → Read Nat
  | 0, _, _ => failure
  | fuel + 1, any, code => do
      let c ← peek
      if c = '\x7d' then
        advanceBlanks
        if any then return code else failure
      else
        let some digit := hexDigit? c | failure
        advanceBlanks
        bracedHex fuel true (16 * code + digit)

/-- A character given by its code. The letter before says how many digits there are, if they do
not stand in braces. -/
def hexLiteral (letter : Char) : Read Primitive := do
  advanceBlanks
  if (← peek) = '\x7b' then
    advanceBlanks
    let code ← bracedHex (← fuel) false 0
    return .literal (← ofCode code) false
  else
    let count := if letter = 'x' then 2 else if letter = 'u' then 4 else 8
    let code ← fixedHex count 0
    return .literal (← ofCode code) (letter = 'x')

/-- Characters up to a closing brace. -/
def bracedName : Nat → List Char → Read (List Char)
  | 0, _ => failure
  | fuel + 1, done => do
      let c ← peek
      if c = '\x7d' then
        advance
        return done.reverse
      else
        advanceBlanks
        bracedName fuel (c :: done)

/-- The parts of a text before and after the first place where a separator stands. -/
def splitAt? (separator : List Char) : List Char → Option (List Char × List Char)
  | [] => none
  | c :: rest =>
      if separator.isPrefixOf (c :: rest) then some ([], (c :: rest).drop separator.length)
      else (splitAt? separator rest).map fun (before, after) => (c :: before, after)

/-- The property that a name in braces stands for. -/
def property? (name : List Char) : Option Property.Row :=
  match splitAt? ['!', '='] name <|> splitAt? [':'] name <|> splitAt? ['='] name with
  | some (property, value) => Property.valued? (String.ofList property) (String.ofList value)
  | none => Property.named? (String.ofList name)

/-- A set as the flags have it: without case where case makes no difference, and the complement of
it. Where characters are read as bytes, a complement would match parts of characters. -/
def adjusted (negated : Bool) (set : SymbolSet) : Read SymbolSet := do
  let flags ← flags
  let set := if flags.ignoreCase then .folded set else set
  if !negated then return set
  else if flags.unicode then return .complement set
  else failure

/-- The characters of a property. -/
def propertySet (negated : Bool) : Read SymbolSet := do
  advanceBlanks
  let row? ←
    match ← peek with
    | '\x7b' =>
        advanceBlanks
        pure (property? (← bracedName (← fuel) []))
    | '\\' => failure
    | c =>
        advanceBlanks
        pure (Property.named? (String.ofList [c]))
  let some row := row? | failure
  if !(← flags).unicode then failure
  adjusted negated (.ranges row.members row.weight)

/-- The memory of the sets of digits, blanks and word characters. -/
def classWeight (letter : Char) : Nat :=
  if letter = 'd' then 4640 else if letter = 's' then 680 else 47888

/-- The digits, blanks and word characters. -/
def classSet (letter : Char) : SymbolSet :=
  let members :=
    if letter = 'd' then [(0x30, 0x39)]
    else if letter = 's' then [(0x9, 0xD), (0x20, 0x20)]
    else [(0x30, 0x39), (0x41, 0x5A), (0x5F, 0x5F), (0x61, 0x7A), (0x17F, 0x17F), (0x212A, 0x212A)]
  .ranges members (classWeight letter)

/-- The letter after a word boundary in braces. -/
def wordBoundary : Nat → List Char → Read (List Char)
  | 0, _ => failure
  | fuel + 1, done => do
      let c ← peek
      if c.isAlpha || c = '-' then
        advanceBlanks
        wordBoundary fuel (c :: done)
      else if c = '\x7d' then
        advance
        return done.reverse
      else failure

/-- A word boundary, whose kind may follow in braces. Braces with anything but letters count
repetitions. -/
def boundary : Read Assertion := do
  let reader ← get
  if reader.rest.head? = some '\x7b' then
    advanceBlanks
    let c ← peek
    if c.isAlpha || c = '-' then
      match String.ofList (← wordBoundary (← fuel) []) with
      | "start" => return .wordStart
      | "end" => return .wordEnd
      | "start-half" => return .wordStartHalf
      | "end-half" => return .wordEndHalf
      | _ => failure
    else set reader
  return .wordBoundary

/-- The control character that a letter stands for. -/
def control? (c : Char) : Option Char :=
  match c with
  | 'a' => some (Char.ofNat 7)
  | 'f' => some (Char.ofNat 12)
  | 't' => some '\t'
  | 'n' => some '\n'
  | 'r' => some '\r'
  | 'v' => some (Char.ofNat 11)
  | _ => none

/-- Whether a character may stand for itself after a backslash. -/
def isEscapable (c : Char) : Bool :=
  c.toNat < 128 && !c.isAlphanum && c != '<' && c != '>'

/-- What follows a backslash. -/
def escape : Read Primitive := do
  advance
  let c ← peek
  if c = 'x' || c = 'u' || c = 'U' then hexLiteral c
  else if c = 'p' || c = 'P' then return .set (← propertySet (c = 'P'))
  else
    advance
    if c = 'd' || c = 's' || c = 'w' then return .set (classSet c)
    else if c = 'D' || c = 'S' || c = 'W' then
      if (← flags).unicode then return .set (.complement (classSet c.toLower)) else failure
    else if isEscapable c then return .literal c false
    else
      match control? c, c with
      | some control, _ => return .literal control false
      | none, 'A' => return .assertion .textStart
      | none, 'z' => return .assertion .textEnd
      | none, 'b' => return .assertion (← boundary)
      | none, 'B' => return .assertion .noWordBoundary
      | none, '<' => return .assertion .wordStart
      | none, '>' => return .assertion .wordEnd
      | none, _ => failure

/-! ### Sets between brackets -/

/-- The sets that have a name between brackets and colons. -/
def namedSet? (name : String) : Option (List (Nat × Nat)) :=
  match name with
  | "alnum" => some [(0x30, 0x39), (0x41, 0x5A), (0x61, 0x7A)]
  | "alpha" => some [(0x41, 0x5A), (0x61, 0x7A)]
  | "ascii" => some [(0x0, 0x7F)]
  | "blank" => some [(0x9, 0x9), (0x20, 0x20)]
  | "cntrl" => some [(0x0, 0x1F), (0x7F, 0x7F)]
  | "digit" => some [(0x30, 0x39)]
  | "graph" => some [(0x21, 0x7E)]
  | "lower" => some [(0x61, 0x7A)]
  | "print" => some [(0x20, 0x7E)]
  | "punct" => some [(0x21, 0x2F), (0x3A, 0x40), (0x5B, 0x60), (0x7B, 0x7E)]
  | "space" => some [(0x9, 0xD), (0x20, 0x20)]
  | "upper" => some [(0x41, 0x5A)]
  | "word" => some [(0x30, 0x39), (0x41, 0x5A), (0x5F, 0x5F), (0x61, 0x7A)]
  | "xdigit" => some [(0x30, 0x39), (0x41, 0x46), (0x61, 0x66)]
  | _ => none

/-- A named set at the start of a text: whether its complement is meant, its members, and the text
after it. -/
def namedSetAt? : List Char → Option (Bool × List (Nat × Nat) × List Char)
  | '[' :: ':' :: rest =>
      let (negated, rest) :=
        match rest with
        | '^' :: rest => (true, rest)
        | rest => (false, rest)
      let name := rest.takeWhile (· != ':')
      match rest.drop name.length with
      | ':' :: ']' :: rest =>
          (namedSet? (String.ofList name)).map fun members => (negated, members, rest)
      | _ => none
  | _ => none

/-- The members of a union. -/
def unionOf : List SymbolSet → SymbolSet
  | [set] => set
  | sets => .union sets

/-- An operand that is still open, and the operation and operand before it. -/
structure Operand where
  earlier : Option (SetOperation × SymbolSet)
  items : List SymbolSet

/-- The set of an operand with all that came before it. -/
def Operand.close (operand : Operand) : Read SymbolSet := do
  let set := unionOf operand.items.reverse
  match operand.earlier with
  | none => return set
  | some (operation, left) =>
      let folded (set : SymbolSet) (ignoreCase : Bool) : SymbolSet :=
        if ignoreCase then .folded set else set
      let ignoreCase := (← flags).ignoreCase
      return .combined operation (folded left ignoreCase) (folded set ignoreCase)

/-- A character as an item of a set. Where characters are read as bytes, it must be ASCII. -/
def literalItem (c : Char) : Read Char := do
  if (← flags).unicode || c.toNat < 128 then return c else failure

/-- One end of a range, or a set. -/
def setItem : Read Primitive := do
  let c ← peek
  if c = '\\' then escape
  else
    advance
    return .literal c false

/-- The next character but one, where the last step over blanks and a number sign may be left
out. -/
def peekAfter? : Read (Option Char) := do
  let reader ← get
  let rest := reader.rest.tail
  if !reader.flags.verbose then return rest.head?
  match rest.dropWhile Text.isBlank with
  | '#' :: following =>
      match following.dropWhile Text.isBlank with
      | c :: _ => return some c
      | [] => return rest.head?
  | c :: _ => return some c
  | [] => return rest.head?

/-- A character, a range or a set between brackets. -/
def setRange : Read SymbolSet := do
  let first ← setItem
  skipBlanks
  let c ← peek
  let after ← peekAfter?
  if c != '-' || after == some ']' || after == some '-' then
    match first with
    | .literal c _ => return .single (← literalItem c)
    | .set set => return set
    | _ => failure
  else
    advanceBlanks
    let _ ← peek
    match first, ← setItem with
    | .literal low _, .literal high _ =>
        let low ← literalItem low
        let high ← literalItem high
        if low ≤ high then return .range low high else failure
    | _, _ => failure

/-- Hyphens at the start of a set stand for themselves. -/
def leadingHyphens : Nat → List SymbolSet → Read (List SymbolSet)
  | 0, items => return items
  | fuel + 1, items => do
      if (← peek) = '-' then
        advanceBlanks
        leadingHyphens fuel (.single '-' :: items)
      else return items

mutual

/-- A set between brackets. -/
def bracketed : Nat → Read SymbolSet
  | 0 => failure
  | depth + 1 => do
      advanceBlanks
      let negated := (← peek) = '^'
      if negated then advanceBlanks
      let hyphens ← leadingHyphens (← fuel) []
      let items ←
        if (← peek) = ']' && hyphens.isEmpty then do
          advanceBlanks
          let _ ← peek
          pure [SymbolSet.single ']']
        else pure hyphens
      let set ← setItems ⟨none, items⟩ depth
      return .bracketed (← adjusted negated set)

/-- The items of a set up to its closing bracket. -/
def setItems (operand : Operand) : Nat → Read SymbolSet
  | 0 => failure
  | depth + 1 => do
      skipBlanks
      let c ← peek
      if c = '[' then
        match namedSetAt? (← get).rest with
        | some (negated, members, rest) =>
            modify fun reader => { reader with rest }
            let set ← adjusted negated (.ranges members (SymbolSet.stateWeight * 2 + 16))
            setItems { operand with items := set :: operand.items } depth
        | none =>
            let set ← bracketed depth
            setItems { operand with items := set :: operand.items } depth
      else if c = ']' then
        advance
        operand.close
      else if ← accept "&&" then
        setItems ⟨some (.intersection, ← operand.close), []⟩ depth
      else if ← accept "--" then
        setItems ⟨some (.difference, ← operand.close), []⟩ depth
      else if ← accept "~~" then
        setItems ⟨some (.symmetricDifference, ← operand.close), []⟩ depth
      else
        let set ← setRange
        setItems { operand with items := set :: operand.items } depth

end

/-! ### Groups and repetitions -/

/-- The flags between a question mark and the end of a group's head, applied to the flags before.
Each flag may be given once, and a minus that takes flags away must be followed by one. -/
def flagItems : Nat → List Char → Flags → Read (List Char × Flags)
  | 0, _, _ => failure
  | fuel + 1, seen, flags => do
      let c ← peek
      if c = ':' || c = ')' then
        if seen.head? = some '-' then failure else return (seen, flags)
      else if seen.contains c then failure
      else if c = '-' then
        advance
        flagItems fuel ('-' :: seen) flags
      else
        let some flags := flags.set? c (!seen.contains '-') | failure
        advance
        flagItems fuel (c :: seen) flags

/-- The name of a group up to its closing angle bracket. -/
def groupName : Nat → List Char → Read (List Char)
  | 0, _ => failure
  | fuel + 1, done => do
      let c ← peek
      let allowed :=
        if done.isEmpty then c = '_' || Text.isLetter c
        else c = '_' || c = '.' || c = '[' || c = ']' || Text.isLetterOrNumeral c
      if c = '>' then
        advance
        if done.isEmpty then failure else return done.reverse
      else if allowed then
        advance
        groupName fuel (c :: done)
      else failure

/-- The head of a group. -/
inductive GroupHead where
  /-- No group at all, but flags for what follows. -/
  | setting (flags : Flags)
  | opening (captures : Bool) (flags : Flags)

/-- Read the head of a group. Names of groups are distinct. -/
def groupHead : Read GroupHead := do
  advanceBlanks
  let before ← flags
  for lookAround in ["?=", "?!", "?<=", "?<!"] do
    if ← accept lookAround then failure
  if ← acceptEither "?P<" "?<" then
    let name := String.ofList (← groupName (← fuel) [])
    let reader ← get
    if reader.names.contains name then failure
    set { reader with names := name :: reader.names }
    return .opening true before
  else if ← accept "?" then
    let (seen, flags) ← flagItems (← fuel) [] before
    let c ← peek
    advance
    if c = ':' then return .opening false flags
    else if seen.isEmpty then failure
    else return .setting flags
  else return .opening true before

/-- Digits of a count; blanks may stand between them where blanks do not count. -/
def countDigits : Nat → List Char → Read (List Char)
  | 0, done => return done.reverse
  | fuel + 1, done => do
      match ← peek? with
      | some c =>
          if c.isDigit then
            advanceBlanks
            countDigits fuel (c :: done)
          else return done.reverse
      | none => return done.reverse

/-- Move over blanks, also where blanks count. -/
def skipAllBlanks : Read Unit :=
  modify fun reader => { reader with rest := reader.rest.dropWhile Text.isBlank }

/-- A count below `2 ^ 32`, with blanks around it. -/
def count : Read Nat := do
  skipAllBlanks
  let digits ← countDigits (← fuel) []
  skipAllBlanks
  skipBlanks
  let value := digits.foldl (fun n c => 10 * n + (c.toNat - '0'.toNat)) 0
  if digits.isEmpty || twoTo 32 ≤ value then failure else return value

/-- A question mark after a repetition makes it lazy, which makes no difference to what matches. -/
def skipLazy : Read Unit := do
  if (← peek?) = some '?' then advance

/-- A repetition counted in braces. -/
def countedTimes : Read (Nat × Option Nat) := do
  advanceBlanks
  let least ← count
  let most ←
    if (← peek) = ',' then do
      advanceBlanks
      if (← peek) = '\x7d' then pure none else pure (some (← count))
    else pure (some least)
  if (← peek) != '\x7d' then failure
  advanceBlanks
  skipLazy
  if most.any (· < least) then failure
  return (least, most)

/-- Expressions one after the other. -/
def sequenceOf : List Expression → Expression
  | [item] => item
  | items => .sequence items

/-- Alternatives. -/
def choiceOf : List Expression → Expression
  | [item] => item
  | items => .choice items

/-- A character that stands for itself. Where characters are read as bytes, it must not be part of
a longer character, and case is known of ASCII letters only. -/
def literal (c : Char) (byTwoDigits : Bool) : Read Expression := do
  let flags ← flags
  let isWide := 128 ≤ c.toNat
  if !flags.unicode && isWide && (byTwoDigits || flags.ignoreCase) then failure
  return .symbol (if flags.ignoreCase then .folded (.single c) else .single c)

/-- Any character but those that end lines. -/
def anyChar : Read Expression := do
  let flags ← flags
  if !flags.unicode then failure
  let excluded :=
    if flags.dotAll then [] else if flags.returns then [(10, 10), (13, 13)] else [(10, 10)]
  return .symbol (.complement (.ranges excluded SymbolSet.wideWeight))

/-- The smallest part of a pattern at a place that is no operator. -/
def primitive : Read Expression := do
  let flags ← flags
  match ← peek with
  | '\\' =>
      match ← escape with
      | .literal c byTwoDigits => literal c byTwoDigits
      | .anyChar => anyChar
      | .set set => return .symbol set
      | .assertion condition => return .assertion condition
  | '.' =>
      advance
      anyChar
  | '^' =>
      advance
      return .assertion (if flags.multiLine then .lineStart flags.returns else .textStart)
  | '$' =>
      advance
      return .assertion (if flags.multiLine then .lineEnd flags.returns else .textEnd)
  | c =>
      advance
      literal c false

/-- Put a repetition around the last item, which must be there and match something. -/
def repeatLast (least : Nat) (most : Option Nat) : List Expression → Read (List Expression)
  | [] => failure
  | .setting :: _ => failure
  | item :: earlier => return .repeated item least most :: earlier

/-- The alternatives up to a closing parenthesis or the end of the text. The items of the current
alternative and the alternatives before it come with the last one first. -/
def alternatives (items branches : List Expression) : Nat → Read Expression
  | 0 => failure
  | fuel + 1 => do
      skipBlanks
      let close := choiceOf ((sequenceOf items.reverse :: branches).reverse)
      match ← peek? with
      | none => return close
      | some ')' => return close
      | some '(' =>
          let before ← flags
          match ← groupHead with
          | .setting flags =>
              modify fun reader => { reader with flags }
              alternatives (.setting :: items) branches fuel
          | .opening captures flags =>
              modify fun reader => { reader with flags }
              let body ← alternatives [] [] fuel
              if (← peek?) != some ')' then failure
              modify fun reader => { reader with flags := before }
              advance
              alternatives (.group captures body :: items) branches fuel
      | some '|' =>
          advance
          alternatives [] (sequenceOf items.reverse :: branches) fuel
      | some '[' =>
          let set ← bracketed (2 * (← Read.fuel))
          alternatives (.symbol set :: items) branches fuel
      | some '?' =>
          advance
          skipLazy
          alternatives (← repeatLast 0 (some 1) items) branches fuel
      | some '*' =>
          advance
          skipLazy
          alternatives (← repeatLast 0 none items) branches fuel
      | some '+' =>
          advance
          skipLazy
          alternatives (← repeatLast 1 none items) branches fuel
      | some '\x7b' =>
          let (least, most) ← countedTimes
          alternatives (← repeatLast least most items) branches fuel
      | some _ =>
          let item ← primitive
          alternatives (item :: items) branches fuel

end Read

/-- How deep a pattern may be nested. -/
def depthLimit : Nat := 250

/-- The memory that a pattern may take, in bytes. The estimate `Expression.weight` is held against
it, so a pattern of nearly this size may be taken for one on the other side of the limit. -/
def weightLimit : Nat := 10 * twoTo 20

/-- Read a pattern. -/
def Expression.ofText? (text : List Char) : Option Expression := do
  let start : Reader := ⟨text, .initial, []⟩
  let (expression, reader) ← (Read.alternatives [] [] (text.length + 1)).run start
  if reader.rest.isEmpty && expression.depth ≤ depthLimit && expression.weight ≤ weightLimit then
    some expression
  else none

end BotConfig.Pattern

namespace BotConfig

/-- A pattern that has been read. -/
structure Pattern where
  expression : Pattern.Expression

namespace Pattern

/-- A pattern between the start and the end of a text. -/
def anchored (text : List Char) : List Char :=
  "^(?:".toList ++ text ++ ")$".toList

/-- Read a pattern. -/
def ofText? (text : String) : Option Pattern :=
  (Expression.ofText? (anchored text.toList)).map Pattern.mk

/-- Whether a text is a pattern. -/
def isValid (text : String) : Bool := (ofText? text).isSome

/-- Whether a pattern matches a symbol. -/
def accepts (pattern : Pattern) (symbol : String) : Bool :=
  pattern.expression.isFoundIn symbol.toList

end Pattern

end BotConfig
