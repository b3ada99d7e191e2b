import BotConfig.Text.Classes

/-!
Files of environment variables.

Each line assigns a text to a name.  Quotes and escapes may join several lines into one, and a
name after a dollar sign stands for what the variable holds.  Variables that are set already are
left as they are, and the first faulty line ends the file.
-/

namespace BotConfig.EnvironmentFile

/-- The variables with what they hold, in order. -/
abbrev Environment := List (String × String)

/-- What a variable holds; a variable that is not set holds nothing. -/
def content (environment : Environment) (name : List Char) : List Char :=
  ((environment.lookup (String.ofList name)).getD "").toList

/-- Set a variable that is not set yet. -/
def extend (environment : Environment) (name content : String) : Environment :=
  if (environment.lookup name).isSome then environment else environment ++ [(name, content)]

/-! ### Lines -/

/-- What the end of a line may be in the middle of. -/
inductive Opening where
  | nothing
  | blank
  | escape
  | single
  | singleEscape
  | double
  | doubleEscape
deriving DecidableEq

/-- What a character outside quotes opens. -/
def Opening.ofChar (c : Char) : Opening :=
  match c with
  | '\\' => .escape
  | '"' => .double
  | '\'' => .single
  | _ => .nothing

/-- What is open after a further character. -/
def Opening.next (opening : Opening) (c : Char) : Opening :=
  match opening with
  | .nothing =>
      if Text.isBlank c ∧ c ≠ '\n' ∧ c ≠ '\r' then .blank else .ofChar c
  | .blank => .ofChar c
  | .escape => .nothing
  | .single => if c = '\\' then .singleEscape else if c = '\'' then .nothing else .single
  | .singleEscape => .single
  | .double => if c = '\\' then .doubleEscape else if c = '"' then .nothing else .double
  | .doubleEscape => .double

/-- A line up to a comment, and what is open at its end if no comment follows. -/
def scan : Opening → List Char → List Char × Option Opening
  | opening, [] => ([], some opening)
  | opening, c :: rest =>
      if opening = .blank ∧ c = '#' then ([], none)
      else
        let (part, last) := scan (opening.next c) rest
        (c :: part, last)

/-- The lines of a text, each with the character that ends it. -/
def physicalLines : List Char → List (List Char)
  | [] => []
  | '\n' :: rest => ['\n'] :: physicalLines rest
  | c :: rest =>
      match physicalLines rest with
      | line :: others => (c :: line) :: others
      | [] => [[c]]

/-- Join the lines that are in the middle of something with those that follow. A line that the
end of the text cuts off is none. -/
def join (earlier : List Char) (opening : Opening) : List (List Char) → List (Option (List Char))
  | [] => if opening = .nothing then [] else [none]
  | line :: rest =>
      let whole := earlier ++ line
      if (Text.trimStart whole).head? = some '#' then join [] .nothing rest
      else
        match scan opening line with
        | (part, none) => some (earlier ++ part) :: join [] .nothing rest
        | (_, some .nothing) => some whole :: join [] .nothing rest
        | (_, some last) => join whole last rest

/-! ### Values -/

/-- What a character of a value is in the middle of. -/
inductive Spot where
  | plain
  | single
  | double
  | escape (quoted : Bool)
  /-- The name of a variable after a dollar sign. -/
  | name (quoted : Bool) (read : List Char)
  /-- The name of a variable in braces. -/
  | braced (quoted : Bool) (read : List Char)
  /-- Behind a blank, where only a comment may follow. -/
  | done

/-- Inside or outside double quotes. -/
def Spot.home (quoted : Bool) : Spot := if quoted then .double else .plain

/-- The character that an escape stands for. -/
def escaped? (c : Char) : Option Char :=
  if c = 'n' then some '\n'
  else if c = '\\' ∨ c = '\'' ∨ c = '"' ∨ c = '$' ∨ c = ' ' then some c
  else none

/-- The rest of a value from a spot on. -/
def valueFrom? (environment : Environment) : Spot → List Char → Option (List Char)
  | .plain, [] => some []
  | .done, [] => some []
  | .escape false, [] => some []
  | .name false name, [] => some (content environment name)
  | _, [] => none
  | .done, c :: rest =>
      if c = ' ' ∨ c = '\t' then valueFrom? environment .done rest
      else if c = '#' then some []
      else none
  | .escape quoted, c :: rest => do
      return (← escaped? c) :: (← valueFrom? environment (.home quoted) rest)
  | .single, c :: rest =>
      if c = '\'' then valueFrom? environment .plain rest
      else (c :: ·) <$> valueFrom? environment .single rest
  | .name quoted name, c :: rest =>
      if Text.isLetterOrNumeral c then valueFrom? environment (.name quoted (name ++ [c])) rest
      else if c = '\x7b' ∧ name = [] then valueFrom? environment (.braced quoted []) rest
      else if c = '$' then
        (content environment name ++ ·) <$> valueFrom? environment (.name quoted []) rest
      else
        (content environment name ++ c :: ·) <$> valueFrom? environment (.home quoted) rest
  | .braced quoted name, c :: rest =>
      if c = '\x7d' then
        (content environment name ++ ·) <$> valueFrom? environment (.home quoted) rest
      else valueFrom? environment (.braced quoted (name ++ [c])) rest
  | .double, c :: rest =>
      if c = '$' then valueFrom? environment (.name true []) rest
      else if c = '"' then valueFrom? environment .plain rest
      else if c = '\\' then valueFrom? environment (.escape true) rest
      else (c :: ·) <$> valueFrom? environment .double rest
  | .plain, c :: rest =>
      if c = '$' then valueFrom? environment (.name false []) rest
      else if c = '\'' then valueFrom? environment .single rest
      else if c = '"' then valueFrom? environment .double rest
      else if c = '\\' then valueFrom? environment (.escape false) rest
      else if c = ' ' ∨ c = '\t' then valueFrom? environment .done rest
      else (c :: ·) <$> valueFrom? environment .plain rest

/-! ### Assignments -/

/-- The name at the start of a text, and what follows it and the blanks behind it. -/
def name? (text : List Char) : Option (List Char × List Char) :=
  let isStart (c : Char) : Bool := c.isAlpha || c == '_'
  let name := text.takeWhile fun c => c.isAlphanum || c == '_' || c == '.'
  if text.head?.any isStart then some (name, Text.trimStart (text.drop name.length)) else none

/-- What follows an equals sign and the blanks behind it. -/
def assigned? : List Char → Option (List Char)
  | '=' :: rest => some (Text.trimStart rest)
  | _ => none

/-- The name and the value of an assignment. The word `export` may stand before the name. -/
def assignment? (environment : Environment) (line : List Char) : Option (String × String) := do
  let (name, rest) ← name? line
  let (name, rest) ←
    if name = "export".toList ∧ rest.head? ≠ some '=' then name? rest else some (name, rest)
  let rest ← assigned? rest
  let value ← if rest.head? = some '#' then some [] else valueFrom? environment .plain rest
  return (String.ofList name, String.ofList value)

/-- Make the assignments of lines in order, up to the first faulty one. -/
def assign (environment : Environment) : List (Option (List Char)) → Environment
  | [] => environment
  | none :: _ => environment
  | some line :: rest =>
      let line := Text.trim line
      if line.isEmpty ∨ line.head? = some '#' then assign environment rest
      else
        match assignment? environment line with
        | some (name, value) => assign (extend environment name value) rest
        | none => environment

/-- The environment with the variables that a text sets. A byte order mark is skipped. -/
def load (environment : Environment) (text : String) : Environment :=
  let body :=
    match text.toList with
    | '\uFEFF' :: rest => rest
    | body => body
  assign environment (join [] .nothing (physicalLines body))

end BotConfig.EnvironmentFile
