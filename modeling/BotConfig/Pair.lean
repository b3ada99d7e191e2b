import BotConfig.Text.Quoted

/-!
Trading pairs: `BASE/QUOTE`, or `BASE/QUOTE:SETTLE` for a derivative settled in a currency.
-/

namespace BotConfig

/-- The part that a symbol plays in a pair. -/
inductive Role where
  | base
  | quote
  | settle
deriving DecidableEq

/-- The name of a role in messages. -/
def Role.name : Role → String
  | .base => "base"
  | .quote => "quote"
  | .settle => "settle"

/-- Why a text is no pair. -/
inductive PairFault where
  | missingSeparator
  | emptySymbol (role : Role)
  | invalidCharacter (c : Char)
deriving DecidableEq

/-- The wording of a fault. -/
def PairFault.message : PairFault → String
  | .missingSeparator => "missing '/' separator, expected BASE/QUOTE"
  | .emptySymbol role => "empty " ++ role.name ++ " symbol"
  | .invalidCharacter c => "invalid character " ++ Text.quotedSymbol c ++ " in symbol"

/-- A trading pair. -/
structure Pair where
  base : String
  quote : String
  settle : Option String
deriving DecidableEq, Inhabited

namespace Pair

/-- The characters that symbols are made of. -/
def isSymbolChar (c : Char) : Bool := c.isAlphanum || c == '-' || c == '_' || c == '.'

/-- The parts of a text before and after the first occurrence of a character. -/
def splitFirst? (separator : Char) : List Char → Option (List Char × List Char)
  | [] => none
  | c :: rest =>
      if c = separator then some ([], rest)
      else (splitFirst? separator rest).map fun (before, after) => (c :: before, after)

/-- A symbol is not empty and holds symbol characters only. -/
def checkSymbol (role : Role) (symbol : List Char) : Except PairFault Unit :=
  if symbol.isEmpty then .error (.emptySymbol role)
  else
    match symbol.find? (!isSymbolChar ·) with
    | some c => .error (.invalidCharacter c)
    | none => .ok ()

/-- Read a pair. The text is split at its first slash, and what follows at its first colon. -/
def ofChars (text : List Char) : Except PairFault Pair := do
  let some (base, rest) := splitFirst? '/' text | throw .missingSeparator
  let (quote, settle) :=
    match splitFirst? ':' rest with
    | some (quote, settle) => (quote, some settle)
    | none => (rest, none)
  checkSymbol .base base
  checkSymbol .quote quote
  if let some settle := settle then checkSymbol .settle settle
  return ⟨String.ofList base, String.ofList quote, settle.map String.ofList⟩

/-- Read a pair from a text. -/
def ofText (text : String) : Except PairFault Pair := ofChars text.toList

/-- The text of a pair. -/
def text (pair : Pair) : String :=
  pair.base ++ "/" ++ pair.quote ++
    match pair.settle with
    | some settle => ":" ++ settle
    | none => ""

/-- Whether the pair is a derivative, that is, names a settlement currency. -/
def isDerivative (pair : Pair) : Bool := pair.settle.isSome

/-- The order of pairs: by base, then quote, then settlement, a pair without one first. -/
def before (a b : Pair) : Bool :=
  if a.base ≠ b.base then a.base < b.base
  else if a.quote ≠ b.quote then a.quote < b.quote
  else
    match a.settle, b.settle with
    | none, _ => true
    | some _, none => false
    | some s, some t => s ≤ t

/-- Pairs in order, each once. -/
def sortDistinct (pairs : List Pair) : List Pair :=
  (pairs.mergeSort before).eraseReps

end Pair

end BotConfig
