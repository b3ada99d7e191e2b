import BotConfig.Binary64

/-!
The decimal text of a binary64 number: the fewest digits that read back to it, laid out in one
of two ways.

A decimal reads back to a number when it lies between the midpoints to the two neighbours, the
midpoints included exactly when the mantissa is even.  The search tries grids of one, two, …
digits and takes the grid point nearest to the number among those that read back.
-/

namespace BotConfig.Binary64

/-- Which of two equally near shortest decimals is written. -/
inductive Tie where
  | toEven
  | upward

/-- `coefficient * 10 ^ power`. -/
structure Digits where
  coefficient : Nat
  power : Int
deriving DecidableEq

/-- Compare `coefficient * 10 ^ power` with `quarters` quarter units of the smallest number. -/
def Digits.compareQuarters (d : Digits) (quarters : Nat) : Ordering :=
  if d.power < 0 then
    compare (d.coefficient * (4 * unitsPerOne)) (quarters * tenTo d.power.natAbs)
  else
    compare (d.coefficient * tenTo d.power.natAbs * (4 * unitsPerOne)) quarters

/-- Whether the decimal lies among the reals that round to the magnitude of `x`. -/
def readsBack (x : Binary64) (d : Digits) : Bool :=
  let narrow := x.mantissa == twoTo 52 && 0 < x.exponent
  let below := (4 * x.mantissa - if narrow then 1 else 2) * twoTo x.exponent
  let above := (4 * x.mantissa + 2) * twoTo x.exponent
  let even := x.mantissa % 2 == 0
  let atLow := d.compareQuarters below
  let atHigh := d.compareQuarters above
  (atLow == .gt || (even && atLow == .eq)) && (atHigh == .lt || (even && atHigh == .eq))

/-- The number of decimal digits of a natural number. -/
def decimalLength (n : Nat) : Nat := (Nat.toDigits 10 n).length

/-- The least `k` such that the magnitude is below `10 ^ k`, for a number that is not zero. -/
def scale (x : Binary64) : Int :=
  let whole := x.magnitude / unitsPerOne
  if 0 < whole then decimalLength whole
  else
    let length := decimalLength (unitsPerOne / x.magnitude)
    if x.magnitude * tenTo (length - 1) < unitsPerOne then 1 - (length : Int)
    else 2 - (length : Int)

/-- The grid point of spacing `10 ^ power` to write for `x`, if one reads back. -/
def onGrid? (tie : Tie) (x : Binary64) (power : Int) : Option Digits :=
  let numerator := if power < 0 then x.magnitude * tenTo power.natAbs else x.magnitude
  let denominator := if power < 0 then unitsPerOne else unitsPerOne * tenTo power.natAbs
  let lower := numerator / denominator
  let twice := 2 * (numerator % denominator)
  let lowerReads := readsBack x ⟨lower, power⟩
  let upperReads := readsBack x ⟨lower + 1, power⟩
  let takeUpper :=
    decide (denominator < twice) ||
      (twice == denominator && match tie with
        | .upward => true
        | .toEven => lower % 2 == 1)
  if lowerReads && upperReads then some ⟨if takeUpper then lower + 1 else lower, power⟩
  else if lowerReads then some ⟨lower, power⟩
  else if upperReads then some ⟨lower + 1, power⟩
  else none

/-- Move trailing zeros of the coefficient into the power. -/
def Digits.strip : Nat → Digits → Digits
  | 0, d => d
  | fuel + 1, d =>
      if d.coefficient % 10 = 0 ∧ d.coefficient ≠ 0 then
        Digits.strip fuel ⟨d.coefficient / 10, d.power + 1⟩
      else d

/-- The shortest decimal that reads back to the magnitude of a number that is not zero. -/
def shortest (tie : Tie) (x : Binary64) : Digits :=
  let top := x.scale
  let found := (List.range 17).findSome? fun n => onGrid? tie x (top - (n + 1 : Nat))
  Digits.strip 20 (found.getD ⟨x.magnitude, -1074⟩)

/-- A run of zeros. -/
def zeros (n : Nat) : String := String.ofList (List.replicate n '0')

/-- Digits with a decimal point after the first `point` of them, which may lie outside. -/
def positional (digits : String) (point : Int) (whole : String) : String :=
  let length : Int := digits.length
  if point ≤ 0 then "0." ++ zeros point.natAbs ++ digits
  else if length ≤ point then digits ++ zeros (point - length).natAbs ++ whole
  else
    String.ofList (digits.toList.take point.natAbs) ++ "." ++
      String.ofList (digits.toList.drop point.natAbs)

/-- The sign of a number as it is written. -/
def signText (x : Binary64) : String := if x.negative then "-" else ""

/-- The text of a number in documents and messages: positional from `1e-5` up to below `1e16`
with at least one digit after the point, otherwise scientific with a signed exponent. -/
def text (x : Binary64) : String :=
  if x.isZero then x.signText ++ "0.0"
  else
    let d := shortest .toEven x
    let digits := toString d.coefficient
    let point := d.power + digits.length
    if -5 < point ∧ point ≤ 16 then x.signText ++ positional digits point ".0"
    else
      let tail := String.ofList (digits.toList.drop 1)
      let fraction := if tail.isEmpty then "" else "." ++ tail
      let exponent := point - 1
      let sign := if exponent < 0 then "-" else "+"
      x.signText ++ String.ofList (digits.toList.take 1) ++ fraction ++ "e" ++ sign ++
        toString exponent.natAbs

/-- The text of a number without exponent and without a needless point. -/
def plainText (x : Binary64) : String :=
  if x.isZero then x.signText ++ "0"
  else
    let d := shortest .upward x
    let digits := toString d.coefficient
    x.signText ++ positional digits (d.power + digits.length) ""

end BotConfig.Binary64
