import BotConfig.Binary64.Notation

/-!
Numbers of documents: whole numbers that fit 64 bits keep their digits, all others are binary64.
-/

namespace BotConfig

/-- A number of a document. An integer lies between `-2 ^ 63` and `2 ^ 64 - 1`. -/
inductive Number where
  | integer (value : Int)
  | real (value : Binary64)
deriving DecidableEq, Inhabited

namespace Number

/-- The text of a number in documents, messages and free-text fields. -/
def text : Number → String
  | .integer value => toString value
  | .real value => value.text

/-- Equality of numbers of one kind; an integer never equals a binary64 number. -/
def agrees : Number → Number → Bool
  | .integer a, .integer b => a == b
  | .real a, .real b => a.agrees b
  | _, _ => false

/-- The least integer that fits 64 bits with a sign. -/
def leastInteger : Int := -twoTo 63

/-- The greatest integer that fits 64 bits without a sign. -/
def greatestInteger : Int := twoTo 64 - 1

/-- The value of a number as a binary64 number. -/
def toBinary64 : Number → Binary64
  | .integer value => .ofInt value
  | .real value => value

end Number

end BotConfig
