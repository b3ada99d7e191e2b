/-!
Finite binary64 numbers.

A number is a sign and a whole count of the smallest positive number `2 ^ -1074`, split into a
mantissa and a power of two in canonical form, so that equal triples are equal bit patterns.
Every operation forms its exact result as a quotient of natural numbers and rounds it once, to
nearest with ties to even; a result too large to be finite is `none`.
-/

namespace BotConfig

/-- A power of two. -/
abbrev twoTo (exponent : Nat) : Nat := Nat.pow 2 exponent

/-- A power of ten. -/
abbrev tenTo (exponent : Nat) : Nat := Nat.pow 10 exponent

/-- A finite binary64 number: `mantissa * 2 ^ exponent` smallest positive numbers. -/
structure Binary64 where
  negative : Bool
  mantissa : Nat
  exponent : Nat
  /-- One triple per number: the exponent is as small as a mantissa of 53 bits allows. -/
  canonical : mantissa < twoTo 53 ∧ exponent ≤ 2045 ∧ (exponent = 0 ∨ twoTo 52 ≤ mantissa)
deriving DecidableEq

namespace Binary64

/-- The number of smallest positive numbers `2 ^ -1074` that make up one. -/
def unitsPerOne : Nat := twoTo 1074

/-- The quotient `numerator / denominator` rounded to nearest, a half going to the even side. -/
def roundHalfEven (numerator denominator : Nat) : Nat :=
  let quotient := numerator / denominator
  let twice := 2 * (numerator % denominator)
  if twice < denominator then quotient
  else if denominator < twice then quotient + 1
  else quotient + quotient % 2

/-- The number with the given parts, if they are canonical. -/
def ofParts? (negative : Bool) (mantissa exponent : Nat) : Option Binary64 :=
  if canonical : mantissa < twoTo 53 ∧ exponent ≤ 2045 ∧ (exponent = 0 ∨ twoTo 52 ≤ mantissa) then
    some ⟨negative, mantissa, exponent, canonical⟩
  else none

/-- The number nearest to `± numerator / denominator`; `none` when it is beyond the largest. -/
def ofRatio? (negative : Bool) (numerator denominator : Nat) : Option Binary64 :=
  let units := numerator * unitsPerOne
  let exponent := (units / denominator).log2 + 1 - 53
  let mantissa := roundHalfEven units (denominator * twoTo exponent)
  if mantissa = twoTo 53 then ofParts? negative (twoTo 52) (exponent + 1)
  else ofParts? negative mantissa exponent

/-- Zero of the given sign. -/
def zero (negative : Bool) : Binary64 := ⟨negative, 0, 0, by decide⟩

instance : Inhabited Binary64 := ⟨zero false⟩

/-- The magnitude as a count of smallest positive numbers. -/
def magnitude (x : Binary64) : Nat := x.mantissa * twoTo x.exponent

/-- The signed count of smallest positive numbers. Both zeros count nothing. -/
def units (x : Binary64) : Int := if x.negative then -(x.magnitude : Int) else x.magnitude

/-- Whether the number is one of the two zeros. -/
def isZero (x : Binary64) : Bool := x.mantissa == 0

/-- Numeric equality: the two zeros are the same number. -/
def agrees (x y : Binary64) : Bool := x.units == y.units

instance : LT Binary64 := ⟨fun x y => x.units < y.units⟩
instance : LE Binary64 := ⟨fun x y => x.units ≤ y.units⟩
instance (x y : Binary64) : Decidable (x < y) := inferInstanceAs (Decidable (x.units < y.units))
instance (x y : Binary64) : Decidable (x ≤ y) := inferInstanceAs (Decidable (x.units ≤ y.units))

/-- The nearest number to an integer below `2 ^ 1023` in size. -/
def ofInt (value : Int) : Binary64 :=
  (ofRatio? (decide (value < 0)) value.natAbs 1).getD (zero false)

/-- The nearest number to `coefficient / 10 ^ places`, for constants. -/
def ofDecimal (negative : Bool) (coefficient places : Nat) : Binary64 :=
  (ofRatio? negative coefficient (tenTo places)).getD (zero negative)

/-- The number one. -/
def one : Binary64 := ofInt 1

/-- Whether a number is below zero. -/
def isBelowZero (x : Binary64) : Bool := x < zero false

/-- Whether a number is above zero. -/
def isAboveZero (x : Binary64) : Bool := zero false < x

/-- Whether a number is above zero and at most one. -/
def isRatio (x : Binary64) : Bool := x.isAboveZero && x ≤ one

/-- Whether a number is between zero and one, both included. -/
def isFraction (x : Binary64) : Bool := !x.isBelowZero && x ≤ one

/-- The same magnitude with the other sign. -/
def neg (x : Binary64) : Binary64 := { x with negative := !x.negative }

/-- The rounded difference. -/
def sub? (x y : Binary64) : Option Binary64 :=
  let difference := x.units - y.units
  ofRatio? (decide (difference < 0)) difference.natAbs unitsPerOne

/-- The rounded product. -/
def mul? (x y : Binary64) : Option Binary64 :=
  ofRatio? (x.negative != y.negative) (x.magnitude * y.magnitude) (unitsPerOne * unitsPerOne)

/-- The rounded quotient by a number that is not zero. -/
def div? (x y : Binary64) : Option Binary64 :=
  ofRatio? (x.negative != y.negative) x.magnitude y.magnitude

/-- The nearest number to `coefficient * 10 ^ power`.

Texts far outside the range are decided by the place of their leading digit, so that no power
of ten larger than needed is formed. -/
def ofScientific? (negative : Bool) (coefficient : Nat) (power : Int) : Option Binary64 :=
  let leading : Int := (Nat.toDigits 10 coefficient).length + power
  if coefficient = 0 ∨ leading < -330 then some (zero negative)
  else if 310 < leading then none
  else if power < 0 then ofRatio? negative coefficient (tenTo power.natAbs)
  else ofRatio? negative (coefficient * tenTo power.natAbs) 1

end Binary64

end BotConfig
