import BotConfig.Error

/-!
The stake: how much of the stake currency a trade takes.
-/

namespace BotConfig

/-- The amount that a trade takes. -/
inductive Stake where
  /-- The balance is divided evenly among the trades. -/
  | unlimited
  | fixed (amount : Decimal)
deriving DecidableEq, Inhabited

namespace Stake

/-- The text of a stake. -/
def text : Stake → String
  | .unlimited => Decode.unlimitedSpelling
  | .fixed amount => amount.text

/-- The amount of a fixed stake. -/
def fixed? : Stake → Option Decimal
  | .unlimited => none
  | .fixed amount => some amount

/-- Read a stake: a number, or the word for the whole balance. -/
def decode : Decode.Decoder Stake
  | .text content =>
      if content = Decode.unlimitedSpelling then .ok .unlimited
      else Decode.fail (.unknownStake content)
  | .number (.integer value) => .ok (.fixed (.ofInt value))
  | .number (.real value) =>
      match Decimal.ofBinary64? value with
      | some amount => .ok (.fixed amount)
      | none => Decode.fail .noStake
  | _ => Decode.fail .noStake

/-- The value that a stake is written as. -/
def encode (stake : Stake) : Value := .text stake.text

/-- Whether two stakes are the same amount. -/
def agrees : Stake → Stake → Bool
  | .unlimited, .unlimited => true
  | .fixed a, .fixed b => a.agrees b
  | _, _ => false

/-- A fixed stake is above zero. -/
def rules : Stake → List Rule
  | .unlimited => []
  | .fixed amount =>
      [⟨amount.isPositive, .invalid [.key "stake_amount"] (.stakeAboveZero amount)⟩]

end Stake

end BotConfig
