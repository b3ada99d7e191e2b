import BotConfig.Binary64.Notation

/-!
Decimal amounts: a coefficient below `2 ^ 96` with up to 28 places.

The scale is part of an amount, so `1.10` is written back with both places; two amounts agree when
they are the same number.
-/

namespace BotConfig

/-- The amount `± coefficient / 10 ^ scale`. -/
structure Decimal where
  negative : Bool
  coefficient : Nat
  scale : Nat
deriving DecidableEq, Inhabited

namespace Decimal

/-- Coefficients are below this limit. -/
def coefficientLimit : Nat := twoTo 96

/-- The greatest number of places. -/
def maxScale : Nat := 28

/-- The amount with the given parts; zero has no sign. -/
def ofParts (negative : Bool) (coefficient scale : Nat) : Decimal :=
  ⟨negative && coefficient != 0, coefficient, scale⟩

/-- A whole amount. -/
def ofInt (value : Int) : Decimal := ofParts (value < 0) value.natAbs 0

/-- The coefficient with its sign. -/
def signed (d : Decimal) : Int := if d.negative then -(d.coefficient : Int) else d.coefficient

/-- Whether an amount is above zero. -/
def isPositive (d : Decimal) : Bool := 0 < d.signed

/-- Whether two amounts are the same number. -/
def agrees (a b : Decimal) : Bool :=
  a.signed * tenTo b.scale == b.signed * tenTo a.scale

/-- The text of an amount with all its places. -/
def text (d : Decimal) : String :=
  let digits := (toString d.coefficient).toList
  let padded := List.replicate (d.scale + 1 - digits.length) '0' ++ digits
  let whole := padded.take (padded.length - d.scale)
  let places := padded.drop (padded.length - d.scale)
  let point := if d.scale = 0 then [] else ['.']
  (if d.negative then "-" else "") ++ String.ofList (whole ++ point ++ places)

/-- What was read of an amount so far. -/
structure Progress where
  negative : Bool
  coefficient : Nat
  scale : Nat
  pointSeen : Bool
  digitSeen : Bool

/-- The amount read so far, rounded by the digit that follows it. All places are used up, so the
rest of the text no longer counts; a separator or a further point counts as zero. -/
def Progress.roundedBy? (p : Progress) (c : Char) : Option Decimal :=
  let digit? :=
    if c.isDigit then some (c.toNat - '0'.toNat)
    else if c = '_' ∨ (c = '.' ∧ p.pointSeen) then some 0
    else none
  digit?.bind fun digit =>
    if digit < 5 then some (ofParts p.negative p.coefficient p.scale)
    else if p.coefficient + 1 < coefficientLimit then
      some (ofParts p.negative (p.coefficient + 1) p.scale)
    else if p.scale = 0 then none
    else some (ofParts p.negative ((p.coefficient + 5) / 10) (p.scale - 1))

/-- Read the rest of an amount. Underscores may stand anywhere after the first digit. -/
def Progress.finish? (p : Progress) : List Char → Option Decimal
  | [] => if p.digitSeen then some (ofParts p.negative p.coefficient p.scale) else none
  | c :: rest =>
      if p.pointSeen ∧ maxScale ≤ p.scale then p.roundedBy? c
      else if c.isDigit then
        let longer := 10 * p.coefficient + (c.toNat - '0'.toNat)
        if longer < coefficientLimit then
          { p with
            coefficient := longer
            scale := if p.pointSeen then p.scale + 1 else p.scale
            digitSeen := true }.finish? rest
        else if p.pointSeen then p.roundedBy? c
        else none
      else if c = '.' ∧ !p.pointSeen then { p with pointSeen := true }.finish? rest
      else if c = '_' ∧ p.digitSeen then p.finish? rest
      else none

/-- An amount without exponent. -/
def ofPlain? : List Char → Option Decimal
  | '-' :: rest => Progress.finish? ⟨true, 0, 0, false, false⟩ rest
  | '+' :: rest => Progress.finish? ⟨false, 0, 0, false, false⟩ rest
  | text => Progress.finish? ⟨false, 0, 0, false, false⟩ text

/-- A natural number below `2 ^ 32`, with an optional plus. -/
def exponentSize? (text : List Char) : Option Nat :=
  let digits := match text with
    | '+' :: rest => rest
    | _ => text
  if digits.isEmpty || !digits.all Char.isDigit then none
  else
    let size := digits.foldl (fun n c => 10 * n + (c.toNat - '0'.toNat)) 0
    if size < twoTo 32 then some size else none

/-- Multiply by a power of ten: first the places are used up, then the coefficient grows. -/
def shiftUp? (d : Decimal) (power : Nat) : Option Decimal :=
  if power ≤ d.scale then some { d with scale := d.scale - power }
  else if maxScale < power then none
  else
    let coefficient := d.coefficient * tenTo (power - d.scale)
    if coefficient < coefficientLimit then some ⟨d.negative, coefficient, 0⟩ else none

/-- Divide by a power of ten, as far as there are places for it. -/
def shiftDown? (d : Decimal) (power : Nat) : Option Decimal :=
  if d.scale + power ≤ maxScale then some { d with scale := d.scale + power } else none

/-- An amount with an exponent after the first `e` of either case. -/
def ofScientific? (text : List Char) : Option Decimal := do
  let isMark (c : Char) : Bool := c == 'e' || c == 'E'
  let base ← ofPlain? (text.takeWhile (!isMark ·))
  match text.dropWhile (!isMark ·) with
  | [] => none
  | _ :: '-' :: exponent => base.shiftDown? (← exponentSize? exponent)
  | _ :: exponent => base.shiftUp? (← exponentSize? exponent)

/-- The amount that a text stands for. -/
def ofText? (text : String) : Option Decimal :=
  ofPlain? text.toList <|> ofScientific? text.toList

/-- The amount that the shortest positional text of a binary64 number stands for. -/
def ofBinary64? (x : Binary64) : Option Decimal := ofPlain? x.plainText.toList

end Decimal

end BotConfig
