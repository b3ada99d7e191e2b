import BotConfig.Value

/-!
The text of values: one line without blanks, or indented by two blanks a level.
-/

namespace BotConfig.Value

/-- A digit below sixteen, in lower case. -/
def hexDigit (n : Nat) : Char := "0123456789abcdef".toList.getD n '0'

/-- A character inside a quoted text: a quote, a backslash and control characters are escaped. -/
def quotedChar (c : Char) : List Char :=
  match c with
  | '"' => ['\\', '"']
  | '\\' => ['\\', '\\']
  | '\n' => ['\\', 'n']
  | '\r' => ['\\', 'r']
  | '\t' => ['\\', 't']
  | c =>
      if c.toNat = 8 then ['\\', 'b']
      else if c.toNat = 12 then ['\\', 'f']
      else if c.toNat < 32 then
        ['\\', 'u', '0', '0', hexDigit (c.toNat / 16), hexDigit (c.toNat % 16)]
      else [c]

/-- A text between quotes. -/
def quoted (content : String) : String :=
  String.ofList ('"' :: content.toList.flatMap quotedChar ++ ['"'])

mutual

/-- The value on one line without blanks, the entries of a mapping in the order they stand. -/
def compact : Value → String
  | .null => "null"
  | .boolean flag => toString flag
  | .number value => value.text
  | .text content => quoted content
  | .list items => "[" ++ compactItems items ++ "]"
  | .mapping fields => "\x7b" ++ compactFields fields ++ "\x7d"

/-- The items of a list, separated by commas. -/
def compactItems : List Value → String
  | [] => ""
  | [item] => item.compact
  | item :: rest => item.compact ++ "," ++ compactItems rest

/-- The entries of a mapping, separated by commas. -/
def compactFields : List (String × Value) → String
  | [] => ""
  | [(key, value)] => quoted key ++ ":" ++ value.compact
  | (key, value) :: rest => quoted key ++ ":" ++ value.compact ++ "," ++ compactFields rest

end

/-- The start of a line at a nesting level. -/
def indent (level : Nat) : String := String.ofList ('\n' :: List.replicate (2 * level) ' ')

mutual

/-- The value over several lines, one for each item and entry. -/
def pretty (level : Nat) : Value → String
  | .list [] => "[]"
  | .list items => "[" ++ prettyItems (level + 1) items ++ indent level ++ "]"
  | .mapping [] => "\x7b\x7d"
  | .mapping fields => "\x7b" ++ prettyFields (level + 1) fields ++ indent level ++ "\x7d"
  | value => value.compact

/-- The items of a list, each on lines of its own. -/
def prettyItems (level : Nat) : List Value → String
  | [] => ""
  | [item] => indent level ++ item.pretty level
  | item :: rest => indent level ++ item.pretty level ++ "," ++ prettyItems level rest

/-- The entries of a mapping, each on lines of its own. -/
def prettyFields (level : Nat) : List (String × Value) → String
  | [] => ""
  | [(key, value)] => indent level ++ quoted key ++ ": " ++ value.pretty level
  | (key, value) :: rest =>
      indent level ++ quoted key ++ ": " ++ value.pretty level ++ "," ++ prettyFields level rest

end

end BotConfig.Value
