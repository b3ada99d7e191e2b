import BotConfig.Binary64

/-!
Lengths of time, and the unit that timeouts are given in.
-/

namespace BotConfig

/-- A length of time. -/
structure Duration where
  seconds : Nat
  nanoseconds : Nat
deriving DecidableEq, Inhabited

namespace Duration

/-- The number of nanoseconds in a second. -/
def nanosecondsPerSecond : Nat := tenTo 9

/-- A length of so many nanoseconds. -/
def ofNanoseconds (count : Nat) : Duration :=
  ⟨count / nanosecondsPerSecond, count % nanosecondsPerSecond⟩

/-- Whether any time passes. -/
def isPositive (duration : Duration) : Bool := duration.seconds != 0 || duration.nanoseconds != 0

/-- A number of seconds, rounded to the nearest nanosecond with ties to even. A number that is not
above zero is no time at all, and one of `2 ^ 64` seconds or more is too long. -/
def ofSeconds? (seconds : Binary64) : Option Duration :=
  if seconds ≤ Binary64.zero false then some ⟨0, 0⟩
  else
    let duration := ofNanoseconds
      (Binary64.roundHalfEven (seconds.magnitude * nanosecondsPerSecond) Binary64.unitsPerOne)
    if duration.seconds < twoTo 64 then some duration else none

end Duration

/-- The unit of timeouts. -/
inductive TimeoutUnit where
  | seconds
  | minutes
deriving DecidableEq, Inhabited

namespace TimeoutUnit

/-- The units in the order messages list them. -/
def all : List TimeoutUnit := [.seconds, .minutes]

/-- The spelling in documents. -/
def name : TimeoutUnit → String
  | .seconds => "seconds"
  | .minutes => "minutes"

/-- So many units of time. -/
def times (unit : TimeoutUnit) (amount : Nat) : Duration :=
  match unit with
  | .seconds => ⟨amount, 0⟩
  | .minutes => ⟨amount * 60, 0⟩

end TimeoutUnit

end BotConfig
