import BotConfig.Pattern.SymbolSet

/-!
Patterns as expressions, and which texts they match.

The meaning of an expression is the list of places where a match that starts at a given place can
end; a pattern matches a text if a match starts anywhere in it.
-/

namespace BotConfig.Pattern

/-- A condition on a place in a text. -/
inductive Assertion where
  | textStart
  | textEnd
  | lineStart (returns : Bool)
  | lineEnd (returns : Bool)
  | wordBoundary
  | noWordBoundary
  | wordStart
  | wordEnd
  | wordStartHalf
  | wordEndHalf
deriving DecidableEq

/-- A pattern. -/
inductive Expression where
  /-- A change of the reading flags, which matches the empty text. -/
  | setting
  | symbol (set : SymbolSet)
  | assertion (condition : Assertion)
  | group (captures : Bool) (body : Expression)
  | repeated (body : Expression) (least : Nat) (most : Option Nat)
  | sequence (items : List Expression)
  | choice (items : List Expression)

/-- Whether a character belongs to words. -/
def isWordChar (c : Char) : Bool := c.isAlphanum || c == '_'

/-- Whether a condition holds at a place in a text, given the characters beside the place. With
`returns`, a carriage return ends a line too, and no line ends between it and a line feed. -/
def Assertion.holdsBetween (before after : Option Char) : Assertion → Bool
  | .textStart => before.isNone
  | .textEnd => after.isNone
  | .lineStart false => before.isNone || before == some '\n'
  | .lineStart true =>
      before.isNone || before == some '\n' || (before == some '\r' && after != some '\n')
  | .lineEnd false => after.isNone || after == some '\n'
  | .lineEnd true =>
      after.isNone || after == some '\r' || (after == some '\n' && before != some '\r')
  | .wordBoundary => before.any isWordChar != after.any isWordChar
  | .noWordBoundary => before.any isWordChar == after.any isWordChar
  | .wordStart => !before.any isWordChar && after.any isWordChar
  | .wordEnd => before.any isWordChar && !after.any isWordChar
  | .wordStartHalf => !before.any isWordChar
  | .wordEndHalf => !after.any isWordChar

/-- Whether a condition holds at a place in a text. -/
def Assertion.holds (condition : Assertion) (text : List Char) (place : Nat) : Bool :=
  condition.holdsBetween (if place = 0 then none else text[place - 1]?) text[place]?

namespace Expression

/-- Take a step from every place, each result once. -/
def stepAll (step : Nat → List Nat) (places : List Nat) : List Nat :=
  (places.flatMap step).eraseDups

/-- Take a step so many times. Further steps change nothing once a step changes nothing. -/
def stepTimes (step : Nat → List Nat) : Nat → List Nat → List Nat
  | 0, places => places
  | count + 1, places =>
      let next := stepAll step places
      if next = places then places else stepTimes step count next

/-- Take a step up to so many times, and keep all places on the way. -/
def stepUpTo (step : Nat → List Nat) : Nat → List Nat → List Nat
  | 0, places => places
  | count + 1, places =>
      let reached := (places ++ stepAll step places).eraseDups
      if reached = places then places else stepUpTo step count reached

mutual

/-- The places where a match that starts at a place can end. -/
def ends (text : List Char) : Expression → Nat → List Nat
  | .setting, place => [place]
  | .symbol set, place =>
      match text[place]? with
      | some c => if set.contains c then [place + 1] else []
      | none => []
  | .assertion condition, place => if condition.holds text place then [place] else []
  | .group _ body, place => ends text body place
  | .repeated body least most, place =>
      let step := ends text body
      let further := match most with
        | some most => min (most - least) (text.length + 1)
        | none => text.length + 1
      stepUpTo step further (stepTimes step least [place])
  | .sequence items, place => endsInTurn text items place
  | .choice items, place => endsOfAny text items place

/-- The places where a match of one expression after the other can end. -/
def endsInTurn (text : List Char) : List Expression → Nat → List Nat
  | [], place => [place]
  | item :: rest, place => stepAll (endsInTurn text rest) (ends text item place)

/-- The places where a match of any of the expressions can end. -/
def endsOfAny (text : List Char) : List Expression → Nat → List Nat
  | [], _ => []
  | item :: rest, place => (ends text item place ++ endsOfAny text rest place).eraseDups

end

/-- Whether a match starts anywhere in a text. -/
def isFoundIn (expression : Expression) (text : List Char) : Bool :=
  (List.range (text.length + 1)).any fun place => !(expression.ends text place).isEmpty

mutual

/-- How deep an expression is nested. Expressions of a single part do not count. -/
def depth : Expression → Nat
  | .setting => 0
  | .symbol set => set.depth
  | .assertion _ => 0
  | .group _ body => body.depth + 1
  | .repeated body _ _ => body.depth + 1
  | .sequence [] => 0
  | .sequence items => greatestDepth items + 1
  | .choice items => greatestDepth items + 1

/-- The greatest depth of some expressions. -/
def greatestDepth : List Expression → Nat
  | [] => 0
  | item :: rest => max item.depth (greatestDepth rest)

end

mutual

/-- Whether an expression can match nothing but the empty text. -/
def isEmptyOnly : Expression → Bool
  | .setting => true
  | .symbol _ => false
  | .assertion _ => true
  | .group _ body => body.isEmptyOnly
  | .repeated body _ most => body.isEmptyOnly || most == some 0
  | .sequence items => allEmptyOnly items
  | .choice items => allEmptyOnly items

/-- Whether no expression can match more than the empty text. -/
def allEmptyOnly : List Expression → Bool
  | [] => true
  | item :: rest => item.isEmptyOnly && allEmptyOnly rest

end

/-- The memory of a state that leads to two others. -/
def forkWeight : Nat := SymbolSet.stateWeight + 8

mutual

/-- The memory that an expression takes, in bytes, as an estimate: a repetition takes its body's
memory for each time that it counts. A compiled pattern may share states between repetitions or
need more of them, so that its size differs from the estimate where repetitions are very long. -/
def weight : Expression → Nat
  | .setting => 0
  | .symbol set => set.weight
  | .assertion _ => SymbolSet.stateWeight
  | .group captures body => body.weight + if captures then 2 * SymbolSet.stateWeight else 0
  | .repeated body least most =>
      let counted (count : Nat) : Nat := if body.isEmptyOnly then min count 1 else count
      match most with
      | none => max (counted least) 1 * body.weight + forkWeight
      | some most =>
          counted least * body.weight +
            (counted most - counted least) * (body.weight + forkWeight)
  | .sequence items => totalWeight items
  | .choice items => totalWeight items + 2 * SymbolSet.stateWeight + 4 * items.length

/-- The memory that some expressions take together. -/
def totalWeight : List Expression → Nat
  | [] => 0
  | item :: rest => item.weight + totalWeight rest

end

end Expression

end BotConfig.Pattern
