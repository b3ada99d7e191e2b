import BotConfig.Error
import BotConfig.Layer
import BotConfig.Numeral
import BotConfig.Text.Classes

/-!
The world that a configuration is loaded in, and its environment variables that override values.

A variable `PREFIX__SECTION__KEY` overrides the value at `section.key`.  What it holds is read as a
truth value, a number, a quoted text, a list or a mapping where it has the form of one as a whole,
and is a text otherwise.
-/

namespace BotConfig

/-- The world that a configuration is loaded in. -/
structure World where
  /-- The text of the file at a path. -/
  read : String → Except ReadFault String
  /-- The environment variables with their values, in order. -/
  environment : List (String × String)

/-- An environment variable that is set to override a value. -/
structure Override where
  /-- The keys that lead to the value, in lower case. -/
  path : List String
  /-- What the variable holds. -/
  content : String
deriving DecidableEq

/-- The path of an override as messages write it. -/
def Override.pathText (override : Override) : String := String.intercalate "." override.path

namespace Override

/-! ### Paths -/

/-- Replace each double underscore by a point. -/
def pointed : List Char → List Char
  | '_' :: '_' :: rest => '.' :: pointed rest
  | c :: rest => c :: pointed rest
  | [] => []

/-- The parts of a text between points. -/
def segments : List Char → List (List Char)
  | [] => [[]]
  | '.' :: rest => [] :: segments rest
  | c :: rest =>
      match segments rest with
      | part :: others => (c :: part) :: others
      | [] => [[c]]

/-- A text after a part that starts it, where case makes no difference. -/
def afterStart? : List Char → List Char → Option (List Char)
  | [], text => some text
  | _ :: _, [] => none
  | c :: start, d :: text => if c.toLower = d.toLower then afterStart? start text else none

/-- The path that a variable overrides, if it has the form of one that does. -/
def path? (start name : String) : Option (List String) := do
  let rest ← afterStart? (start.toList ++ ['_', '_']) (Text.trim name.toList)
  let path := segments ((pointed rest).map Char.toLower)
  if path.any List.isEmpty then none else some (path.map String.ofList)

/-- The overrides among environment variables, in order. -/
def ofEnvironment (start : String) (environment : List (String × String)) : List Override :=
  environment.filterMap fun (name, content) =>
    if name.isEmpty then none else (path? start name).map fun path => ⟨path, content⟩

/-! ### Values -/

/-- Blanks between the parts of a value. -/
def isGap (c : Char) : Bool :=
  c == ' ' || c == '\t' || c == '\n' || c == '\r' || c == Char.ofNat 12

/-- A text without the gap at its start. -/
def skipGap (text : List Char) : List Char := text.dropWhile isGap

/-- Characters that end a text without quotes. -/
def isDelimiter (c : Char) : Bool :=
  c == ',' || c == '[' || c == ']' || c == '\x7b' || c == '\x7d'

/-- The characters of keys without quotes. -/
def isKeyChar (c : Char) : Bool := c.isAlphanum || c == '_' || c == '-'

/-- The value of a text without quotes. Only a numeral with a point is a binary64 number, and one
beyond the largest is null. -/
def plainValue (text : List Char) : Value :=
  let trimmed := Text.trim text
  let real := if trimmed.contains '.' then Numeral.real? trimmed else none
  match real with
  | some (some value) => .number (.real value)
  | some none => .null
  | none =>
      match Numeral.integer? 10 trimmed with
      | some value =>
          let unsignedFits := trimmed.head? ≠ some '-' ∧ value ≤ Number.greatestInteger
          if unsignedFits ∨ (Number.leastInteger ≤ value ∧ value < twoTo 63) then
            .number (.integer value)
          else .text (String.ofList trimmed)
      | none => .text (String.ofList trimmed)

/-- The characters between quotes, still escaped, and what follows the closing quote. -/
def quotedPart? : List Char → Option (List Char × List Char)
  | [] => none
  | '"' :: rest => some ([], rest)
  | '\\' :: c :: rest =>
      (quotedPart? rest).map fun (part, rest) => ('\\' :: c :: part, rest)
  | c :: rest => (quotedPart? rest).map fun (part, rest) => (c :: part, rest)

/-- The character of a code in hexadecimal digits. -/
def hexChar? (digits : List Char) : Option Char := do
  let code ← Numeral.natural? 16 digits
  if h : code.isValidChar then some (Char.ofNatAux code h) else none

/-- The character that an escape of one letter stands for. -/
def simpleEscape? (c : Char) : Option Char :=
  match c with
  | '"' => some '"'
  | '\\' => some '\\'
  | 'b' => some (Char.ofNat 8)
  | 'f' => some (Char.ofNat 12)
  | 'n' => some '\n'
  | 'r' => some '\r'
  | 't' => some '\t'
  | _ => none

/-- The text that an escaped text stands for. -/
def unescaped? : List Char → Option (List Char)
  | [] => some []
  | '\\' :: 'u' :: a :: b :: c :: d :: rest => do
      return (← hexChar? [a, b, c, d]) :: (← unescaped? rest)
  | '\\' :: 'U' :: a :: b :: c :: d :: e :: f :: g :: h :: rest => do
      return (← hexChar? [a, b, c, d, e, f, g, h]) :: (← unescaped? rest)
  | '\\' :: c :: rest => do
      return (← simpleEscape? c) :: (← unescaped? rest)
  | c :: rest =>
      if c = '\t' ∨ (32 ≤ c.toNat ∧ c.toNat ≠ 127) then (c :: ·) <$> unescaped? rest else none

/-- A text between quotes, and what follows it. -/
def quoted? (text : List Char) : Option (String × List Char) := do
  let (part, rest) ← quotedPart? text
  return (String.ofList (← unescaped? part), rest)

/-- A key, and what follows it. -/
def key? (text : List Char) : Option (String × List Char) :=
  match text with
  | '"' :: rest => quoted? rest
  | text =>
      let key := text.takeWhile isKeyChar
      if key.isEmpty then none else some (String.ofList key, text.drop key.length)

mutual

/-- A value with the gaps around it, and what follows. -/
def valueAt? : Nat → List Char → Option (Value × List Char)
  | 0, _ => none
  | fuel + 1, text => do
      let (value, rest) ←
        match skipGap text with
        | 't' :: 'r' :: 'u' :: 'e' :: rest => some (Value.boolean true, rest)
        | 'f' :: 'a' :: 'l' :: 's' :: 'e' :: rest => some (Value.boolean false, rest)
        | '\x7b' :: rest => do
            let (entries, rest) ← entriesAt? fuel rest
            some (.mapping (Fields.ofEntries entries), rest)
        | '[' :: rest => do
            let (items, rest) ← itemsAt? fuel rest
            some (.list items, rest)
        | '"' :: rest => do
            let (content, rest) ← quoted? rest
            some (.text content, rest)
        | '\'' :: c :: '\'' :: rest => some (.text (String.singleton c), rest)
        | '\'' :: _ => none
        | text =>
            let plain := text.takeWhile (!isDelimiter ·)
            some (plainValue plain, text.drop plain.length)
      return (value, skipGap rest)

/-- The items of a list up to its end, and what follows. A comma may stand after the last one. -/
def itemsAt? : Nat → List Char → Option (List Value × List Char)
  | 0, _ => none
  | _ + 1, ']' :: rest => some ([], rest)
  | fuel + 1, text => do
      let (item, rest) ← valueAt? fuel text
      match rest with
      | ',' :: rest =>
          let (items, rest) ← itemsAt? fuel rest
          return (item :: items, rest)
      | ']' :: rest => return ([item], rest)
      | _ => none

/-- The entries of a mapping up to its end, and what follows. A comma may stand after the last
one. -/
def entriesAt? : Nat → List Char → Option (List (String × Value) × List Char)
  | 0, _ => none
  | _ + 1, '\x7d' :: rest => some ([], rest)
  | fuel + 1, text => do
      let (key, rest) ← key? (skipGap text)
      match skipGap rest with
      | '=' :: rest =>
          let (value, rest) ← valueAt? fuel rest
          match rest with
          | ',' :: rest =>
              let (entries, rest) ← entriesAt? fuel rest
              return ((key, value) :: entries, rest)
          | '\x7d' :: rest => return ([(key, value)], rest)
          | _ => none
      | _ => none

end

/-- The value that a text stands for. A text that has no form as a whole stands for itself. -/
def parse (content : String) : Value :=
  let text := content.toList
  match valueAt? (2 * text.length + 2) text with
  | some (value, []) => value
  | _ => .text content

/-! ### Layers -/

/-- The paths of fields that hold free text, which is never read as anything else. -/
def textPaths : List (List String) := [
  ["bot_name"], ["stake_currency"], ["fiat_display_currency"],
  ["exchange", "name"], ["exchange", "key"], ["exchange", "secret"], ["exchange", "password"],
  ["exchange", "uid"],
  ["telegram", "token"], ["telegram", "chat_id"], ["telegram", "topic_id"],
  ["api_server", "username"], ["api_server", "password"], ["api_server", "jwt_secret_key"]]

/-- Whether an override is of free text. -/
def isText (override : Override) : Bool := textPaths.contains override.path

/-- The layer of an override, with its value read. -/
def layer (override : Override) : Fields :=
  Fields.nested override.path (parse override.content)

/-- The layer of an override of free text. -/
def textLayer (override : Override) : Fields :=
  Fields.nested override.path (.text override.content)

/-- The layers of overrides: all of them as one, and then the free texts. -/
def layers (overrides : List Override) : List Fields :=
  Fields.overlayAll (overrides.map layer) ::
    (overrides.filter isText).map textLayer

end Override

end BotConfig
