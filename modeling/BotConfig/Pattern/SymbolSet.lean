import BotConfig.Text.Classes

/-!
Sets of characters in patterns.

Membership is exact for ASCII characters, which are all that symbols are made of.
-/

namespace BotConfig.Pattern

/-- How two sets are combined. -/
inductive SetOperation where
  | intersection
  | difference
  | symmetricDifference
deriving DecidableEq

/-- A set of characters. -/
inductive SymbolSet where
  /-- The characters of some ranges, and the memory that the set takes. -/
  | ranges (members : List (Nat × Nat)) (weight : Nat)
  | union (sets : List SymbolSet)
  | combined (operation : SetOperation) (left right : SymbolSet)
  | complement (set : SymbolSet)
  /-- The characters with a variant in a set, where case makes no difference. -/
  | folded (set : SymbolSet)
  /-- A set between brackets. -/
  | bracketed (set : SymbolSet)

namespace SymbolSet

/-- The memory of one state, in bytes. This and all other weights are estimates of the memory that a
compiled pattern takes: near the limit, with tens of thousands of repetitions, they may lie on the
other side of it. -/
def stateWeight : Nat := 32

/-- The memory of a set with members outside ASCII that is given by one range. -/
def wideWeight : Nat := 1000

/-- The range from one character to another. -/
def range (first last : Char) : SymbolSet :=
  .ranges [(first.toNat, last.toNat)] (if last.toNat < 128 then 72 else wideWeight)

/-- The set of one character. -/
def single (c : Char) : SymbolSet :=
  .ranges [(c.toNat, c.toNat)] (c.utf8Size * stateWeight)

/-- The characters that differ from a character in case only. Two of them lie outside ASCII. -/
def variants (c : Char) : List Char :=
  if c = 'k' ∨ c = 'K' ∨ c = '\u212A' then ['k', 'K', '\u212A']
  else if c = 's' ∨ c = 'S' ∨ c = '\u017F' then ['s', 'S', '\u017F']
  else [c.toLower, c.toUpper]

/-- Membership in a combination. -/
def SetOperation.holds (operation : SetOperation) (left right : Bool) : Bool :=
  match operation with
  | .intersection => left && right
  | .difference => left && !right
  | .symmetricDifference => left != right

mutual

/-- Whether a character is in a set. -/
def contains : SymbolSet → Char → Bool
  | .ranges members _, c => Text.inRanges members c.toNat
  | .union sets, c => anyContains sets c
  | .combined operation left right, c =>
      SetOperation.holds operation (left.contains c) (right.contains c)
  | .complement set, c => !set.contains c
  | .folded set, c => (variants c).any fun variant => set.contains variant
  | .bracketed set, c => set.contains c

/-- Whether a character is in one of some sets. -/
def anyContains : List SymbolSet → Char → Bool
  | [], _ => false
  | set :: rest, c => set.contains c || anyContains rest c

end

mutual

/-- How deep brackets, unions and combinations are nested. -/
def depth : SymbolSet → Nat
  | .ranges _ _ => 0
  | .union [] => 0
  | .union sets => greatestDepth sets + 1
  | .combined _ left right => max left.depth right.depth + 1
  | .complement set => set.depth
  | .folded set => set.depth
  | .bracketed set => set.depth + 1

/-- The greatest depth of some sets. -/
def greatestDepth : List SymbolSet → Nat
  | [] => 0
  | set :: rest => max set.depth (greatestDepth rest)

end

mutual

/-- The memory that a set takes, in bytes, as an estimate. -/
def weight : SymbolSet → Nat
  | .ranges _ weight => weight
  | .union sets => totalWeight sets
  | .combined _ left right => left.weight + right.weight
  | .complement set => max set.weight wideWeight
  | .folded set => 2 * set.weight
  | .bracketed set => set.weight

/-- The memory that some sets take together. -/
def totalWeight : List SymbolSet → Nat
  | [] => stateWeight
  | set :: rest => set.weight + totalWeight rest

end

end SymbolSet

end BotConfig.Pattern
