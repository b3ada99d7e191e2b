import BotConfig.Binary64

/-!
Numerals in free text: runs of digits to a radix, and decimal numerals with a point and an
exponent.
-/

namespace BotConfig.Numeral

/-- The value of a digit, in either case. -/
def digit? (radix : Nat) (c : Char) : Option Nat :=
  let value :=
    if c.isDigit then some (c.toNat - '0'.toNat)
    else if c.isLower then some (c.toNat - 'a'.toNat + 10)
    else if c.isUpper then some (c.toNat - 'A'.toNat + 10)
    else none
  value.filter (· < radix)

/-- The number that a non-empty run of digits spells. -/
def natural? (radix : Nat) : List Char → Option Nat
  | [] => none
  | text => text.foldlM (fun n c => (digit? radix c).map (radix * n + ·)) 0

/-- The number that a run of digits spells after an optional sign. -/
def integer? (radix : Nat) : List Char → Option Int
  | '-' :: text => (natural? radix text).map fun n => -(n : Int)
  | '+' :: text => (natural? radix text).map Int.ofNat
  | text => (natural? radix text).map Int.ofNat

/-- The power of ten at the end of a numeral. -/
def exponent? : List Char → Option Int
  | [] => some 0
  | c :: text => if c == 'e' || c == 'E' then integer? 10 text else none

/-- The number that a numeral without a sign spells; a number beyond the largest is spelled too,
but has no value. -/
def magnitude? (negative : Bool) (text : List Char) : Option (Option Binary64) := do
  let (whole, rest) := text.span Char.isDigit
  let (fraction, rest) :=
    match rest with
    | '.' :: rest => rest.span Char.isDigit
    | rest => ([], rest)
  let coefficient ← natural? 10 (whole ++ fraction)
  let exponent ← exponent? rest
  return Binary64.ofScientific? negative coefficient (exponent - fraction.length)

/-- The number that a numeral spells. -/
def real? : List Char → Option (Option Binary64)
  | '-' :: text => magnitude? true text
  | '+' :: text => magnitude? false text
  | text => magnitude? false text

end BotConfig.Numeral
