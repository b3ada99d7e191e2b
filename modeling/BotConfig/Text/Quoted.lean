import BotConfig.Text.Combining
import BotConfig.Text.Unprintable

/-!
Quoted texts and characters in messages and log fields.

The quote that surrounds a text, the backslash and control characters are escaped, and so is every
character that would not show or would join the character before it.
-/

namespace BotConfig.Text

/-- The hexadecimal digits of a number, in lower case. -/
def hexadecimal (n : Nat) : String := String.ofList (Nat.toDigits 16 n)

/-- A character as it stands between the given quotes. -/
def quotedChar (quote c : Char) : List Char :=
  match c with
  | '\n' => ['\\', 'n']
  | '\r' => ['\\', 'r']
  | '\t' => ['\\', 't']
  | '\\' => ['\\', '\\']
  | c =>
      if c = quote then ['\\', c]
      else if c.toNat = 0 then ['\\', '0']
      else if isCombining c || isUnprintable c then
        '\\' :: 'u' :: '\x7b' :: (hexadecimal c.toNat).toList ++ ['\x7d']
      else [c]

/-- A text between double quotes. -/
def quoted (content : String) : String :=
  String.ofList ('"' :: content.toList.flatMap (quotedChar '"') ++ ['"'])

/-- A character between single quotes. -/
def quotedSymbol (c : Char) : String :=
  String.ofList ('\'' :: quotedChar '\'' c ++ ['\''])

/-- A list of texts, each quoted. -/
def quotedList (items : List String) : String :=
  "[" ++ String.intercalate ", " (items.map quoted) ++ "]"

end BotConfig.Text
