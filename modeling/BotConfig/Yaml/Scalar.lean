import BotConfig.Number
import BotConfig.Numeral
import BotConfig.Value

/-!
The meaning of plain scalars: null, truth values, whole numbers to four radixes, numbers with a
fraction or an exponent, and text.
-/

namespace BotConfig.Yaml.Scalar

/-- Spellings of null. -/
def isNull (content : String) : Bool := ["null", "Null", "NULL", "~"].contains content

/-- Spellings of truth values. -/
def boolean? (content : String) : Option Bool :=
  if ["true", "True", "TRUE"].contains content then some true
  else if ["false", "False", "FALSE"].contains content then some false
  else none

/-- The text after a sign, if there is one. -/
def unsigned : List Char → List Char
  | '+' :: rest => rest
  | '-' :: rest => rest
  | text => text

/-- Digits after a leading zero are no number. -/
def isZeroLed (text : List Char) : Bool :=
  match unsigned text with
  | '0' :: c :: rest => (c :: rest).all Char.isDigit
  | _ => false

/-- The magnitude of a whole number without a sign, where a radix may be given first. -/
def magnitude? : List Char → Option Nat
  | '0' :: 'x' :: text => Numeral.natural? 16 text
  | '0' :: 'o' :: text => Numeral.natural? 8 text
  | '0' :: 'b' :: text => Numeral.natural? 2 text
  | text => if isZeroLed text then none else Numeral.natural? 10 text

/-- A whole number. -/
def integer? : List Char → Option Int
  | '-' :: text => (magnitude? text).map fun n => -(n : Int)
  | '+' :: text => (magnitude? text).map Int.ofNat
  | text => (magnitude? text).map Int.ofNat

/-- What a plain scalar means. Whole numbers that need more than 64 bits, and no more than 128, are
out of range. -/
inductive Meaning where
  | value (value : Value)
  | outOfRange

/-- Spellings of numbers that are not finite. -/
def isNonFinite (content : String) : Bool :=
  [".inf", ".Inf", ".INF", "+.inf", "+.Inf", "+.INF", "-.inf", "-.Inf", "-.INF", ".nan", ".NaN",
    ".NAN"].contains content

/-- The meaning of a spelling of a whole number. -/
def ofInteger? (content : String) : Option Meaning := do
  let value ← integer? content.toList
  if Number.leastInteger ≤ value ∧ value ≤ Number.greatestInteger then
    some (.value (.number (.integer value)))
  else if -twoTo 127 ≤ value ∧ value < twoTo 128 then some .outOfRange
  else none

/-- The meaning of a spelling of a number with a fraction or an exponent. Numbers that are not
finite mean null. -/
def ofReal? (content : String) : Option Value :=
  if isNonFinite content then some .null
  else
    match Numeral.real? content.toList with
    | some (some value) => some (.number (.real value))
    | _ => none

/-- The meaning of a plain scalar without a tag. -/
def ofPlain (content : String) : Meaning :=
  if content.isEmpty || isNull content then .value .null
  else
    match boolean? content with
    | some flag => .value (.boolean flag)
    | none =>
        match ofInteger? content with
        | some meaning => meaning
        | none =>
            let number := if isZeroLed content.toList then none else ofReal? content
            .value (number.getD (.text content))

end BotConfig.Yaml.Scalar
