import Mathlib.Tactic.Ring
import BotConfig.Proofs.Ignoring
import BotConfig.Proofs.Reloading
import BotConfig.Proofs.RoundTrip

/-!
The lengths of time of a configuration that is loaded.

Timeouts are whole numbers of seconds, far below what a length can hold.  The time between two turns
is a number of seconds that is rounded to the nearest nanosecond: it is too long from `2 ^ 64`
seconds on, and nothing is left of it up to half a nanosecond.
-/

namespace BotConfig

namespace Binary64

/-! ### Rounding to the nearest whole number -/

theorem roundHalfEven_le {numerator denominator bound : Nat} (positive : 0 < denominator)
    (atMost : numerator ≤ bound * denominator) :
    roundHalfEven numerator denominator ≤ bound := by
  have quotientLe : numerator / denominator ≤ bound :=
    Nat.div_le_of_le_mul (by rwa [Nat.mul_comm])
  have parts := Nat.div_add_mod numerator denominator
  unfold roundHalfEven
  dsimp only
  rcases Nat.lt_or_eq_of_le quotientLe with below | reached
  · split
    · omega
    · split <;> omega
  · -- Nothing remains when the quotient is the bound itself.
    rw [reached, Nat.mul_comm] at parts
    rw [if_pos (by omega)]
    exact quotientLe

/-- Rounding moves a quotient by at most a half. -/
theorem roundHalfEven_nearest (numerator : Nat) {denominator : Nat} (positive : 0 < denominator) :
    2 * (roundHalfEven numerator denominator * denominator) ≤ 2 * numerator + denominator ∧
      2 * numerator ≤ 2 * (roundHalfEven numerator denominator * denominator) + denominator := by
  have parts := Nat.div_add_mod numerator denominator
  have remainder := Nat.mod_lt numerator positive
  rw [Nat.mul_comm] at parts
  unfold roundHalfEven
  dsimp only
  split
  · omega
  · split
    · rw [Nat.add_mul]
      omega
    · rcases Nat.mod_two_eq_zero_or_one (numerator / denominator) with even | odd
      · rw [even, Nat.add_zero]
        omega
      · rw [odd, Nat.add_mul]
        omega

theorem roundHalfEven_eq_zero_iff {numerator denominator : Nat} (positive : 0 < denominator) :
    roundHalfEven numerator denominator = 0 ↔ 2 * numerator ≤ denominator := by
  constructor
  · intro rounded
    have nearest := (roundHalfEven_nearest numerator positive).2
    rw [rounded] at nearest
    omega
  · intro small
    have quotient : numerator / denominator = 0 := Nat.div_eq_of_lt (by omega)
    have remainder : numerator % denominator = numerator := Nat.mod_eq_of_lt (by omega)
    unfold roundHalfEven
    dsimp only
    rw [quotient, remainder]
    split
    · rfl
    · rw [if_neg (by omega)]

theorem twoTo_add (first second : Nat) : twoTo (first + second) = twoTo first * twoTo second :=
  Nat.pow_add 2 first second

/-- From `2 ^ 53` units on a number is a whole count of them, so below a count there is the one
before. -/
theorem magnitude_le_of_lt {x : Binary64} {bound places : Nat} (large : twoTo 53 < bound)
    (below : x.magnitude < bound * twoTo places) : x.magnitude ≤ (bound - 1) * twoTo places := by
  rcases Nat.lt_or_ge x.exponent places with fine | coarse
  · have power : twoTo x.exponent ≤ twoTo places :=
      Nat.pow_le_pow_right (by decide) (Nat.le_of_lt fine)
    have mantissa : x.mantissa ≤ bound - 1 := by
      have fits := x.canonical.1
      omega
    exact Nat.mul_le_mul mantissa power
  · obtain ⟨gap, exponent⟩ := Nat.exists_eq_add_of_le coarse
    have whole : x.magnitude = x.mantissa * twoTo gap * twoTo places := by
      rw [magnitude, exponent, twoTo_add]
      ring
    rw [whole] at below ⊢
    have count : x.mantissa * twoTo gap < bound := Nat.lt_of_mul_lt_mul_right below
    exact Nat.mul_le_mul_right _ (by omega)

end Binary64

/-! ### Numbers of seconds -/

namespace Duration

open Binary64 (unitsPerOne unitsPerOne_pos)

/-- The whole length in nanoseconds. -/
def total (duration : Duration) : Nat :=
  duration.seconds * nanosecondsPerSecond + duration.nanoseconds

theorem total_ofNanoseconds (count : Nat) : (ofNanoseconds count).total = count :=
  Nat.div_add_mod' count nanosecondsPerSecond

theorem isPositive_eq_true_iff (duration : Duration) :
    duration.isPositive = true ↔ 0 < duration.total := by
  have positive : 0 < nanosecondsPerSecond := by decide
  obtain ⟨seconds, nanoseconds⟩ := duration
  simp only [isPositive, total, Bool.or_eq_true, bne_iff_ne, ne_eq, Nat.add_pos_iff_pos_or_pos,
    Nat.mul_pos_iff_of_pos_right positive]
  omega

/-- A length is a number of seconds, up to half a nanosecond. -/
structure Nearest (duration : Duration) (seconds : Binary64) : Prop where
  nanosecondsFit : duration.nanoseconds < nanosecondsPerSecond
  secondsFit : duration.seconds < twoTo 64
  least : 2 * (seconds.magnitude * nanosecondsPerSecond) ≤
    2 * (duration.total * unitsPerOne) + unitsPerOne
  greatest : 2 * (duration.total * unitsPerOne) ≤
    2 * (seconds.magnitude * nanosecondsPerSecond) + unitsPerOne

/-- The nanoseconds that a number of seconds is rounded to. -/
def rounded (seconds : Binary64) : Nat :=
  Binary64.roundHalfEven (seconds.magnitude * nanosecondsPerSecond) unitsPerOne

variable {seconds : Binary64}

theorem ofSeconds?_of_pos (positive : Binary64.zero false < seconds) :
    ofSeconds? seconds =
      if (ofNanoseconds (rounded seconds)).seconds < twoTo 64 then
        some (ofNanoseconds (rounded seconds)) else none := by
  have aboveZero : ¬ seconds ≤ Binary64.zero false := Int.not_le.mpr positive
  exact if_neg aboveZero

/-- Rounding to a nanosecond does not reach `2 ^ 64` seconds from below. -/
theorem seconds_rounded_lt_iff (seconds : Binary64) :
    (ofNanoseconds (rounded seconds)).seconds < twoTo 64 ↔
      seconds.magnitude < twoTo 64 * unitsPerOne := by
  have positive : 0 < nanosecondsPerSecond := by decide
  change rounded seconds / nanosecondsPerSecond < twoTo 64 ↔ _
  rw [Nat.div_lt_iff_lt_mul positive]
  constructor
  · intro fits
    by_contra beyond
    have floor : twoTo 64 * nanosecondsPerSecond ≤
        seconds.magnitude * nanosecondsPerSecond / unitsPerOne := by
      rw [Nat.le_div_iff_mul_le unitsPerOne_pos, Nat.mul_right_comm]
      exact Nat.mul_le_mul_right _ (Nat.le_of_not_lt beyond)
    have least := Binary64.quotient_le_roundHalfEven
      (seconds.magnitude * nanosecondsPerSecond) unitsPerOne
    exact absurd fits (Nat.not_lt.mpr (floor.trans least))
  · intro below
    have atMost : seconds.magnitude ≤ (twoTo 64 - 1) * unitsPerOne := by
      unfold Binary64.unitsPerOne at below ⊢
      exact Binary64.magnitude_le_of_lt (by decide) below
    have scaled : seconds.magnitude * nanosecondsPerSecond ≤
        (twoTo 64 - 1) * nanosecondsPerSecond * unitsPerOne := by
      rw [Nat.mul_right_comm]
      exact Nat.mul_le_mul_right _ atMost
    have roundedLe := Binary64.roundHalfEven_le unitsPerOne_pos scaled
    exact Nat.lt_of_le_of_lt roundedLe (Nat.mul_lt_mul_of_pos_right (by decide) positive)

theorem ofSeconds?_eq_none_iff (positive : Binary64.zero false < seconds) :
    ofSeconds? seconds = none ↔ twoTo 64 * unitsPerOne ≤ seconds.magnitude := by
  rw [ofSeconds?_of_pos positive, ← Nat.not_lt, ← seconds_rounded_lt_iff]
  split
  · rename_i fits
    exact ⟨nofun, fun beyond => absurd fits beyond⟩
  · rename_i beyond
    exact ⟨fun _ => beyond, fun _ => rfl⟩

theorem ofSeconds?_eq_some_iff {duration : Duration} (positive : Binary64.zero false < seconds) :
    ofSeconds? seconds = some duration ↔
      duration.seconds < twoTo 64 ∧ duration = ofNanoseconds (rounded seconds) := by
  rw [ofSeconds?_of_pos positive, Option.ite_some_none_eq_some]
  constructor
  · rintro ⟨fits, rfl⟩
    exact ⟨fits, rfl⟩
  · rintro ⟨fits, rfl⟩
    exact ⟨fits, rfl⟩

theorem nearest_of_ofSeconds? {duration : Duration} (positive : Binary64.zero false < seconds)
    (found : ofSeconds? seconds = some duration) : duration.Nearest seconds := by
  obtain ⟨fits, rfl⟩ := (ofSeconds?_eq_some_iff positive).mp found
  obtain ⟨greatest, least⟩ := Binary64.roundHalfEven_nearest
    (seconds.magnitude * nanosecondsPerSecond) unitsPerOne_pos
  rw [← rounded] at greatest least
  refine ⟨Nat.mod_lt _ (by decide), fits, ?_, ?_⟩
  · rw [total_ofNanoseconds]
    exact least
  · rw [total_ofNanoseconds]
    exact greatest

/-- Up to half a nanosecond nothing is left of a number of seconds. -/
theorem isPositive_iff_of_ofSeconds? {duration : Duration}
    (positive : Binary64.zero false < seconds) (found : ofSeconds? seconds = some duration) :
    duration.isPositive = true ↔ unitsPerOne < 2 * (seconds.magnitude * nanosecondsPerSecond) := by
  obtain ⟨-, rfl⟩ := (ofSeconds?_eq_some_iff positive).mp found
  rw [isPositive_eq_true_iff, total_ofNanoseconds, Nat.pos_iff_ne_zero, ne_eq, rounded,
    Binary64.roundHalfEven_eq_zero_iff unitsPerOne_pos, Nat.not_le]

end Duration

/-! ### Timeouts -/

namespace UnfilledTimeout

/-- A timeout is a number of 32 bits. -/
structure Fits (timeout : UnfilledTimeout) : Prop where
  entry : timeout.entry < twoTo 32
  exit : timeout.exit < twoTo 32

theorem fits_of_gives {fields : Fields} {name : String} {fallback amount : Nat}
    (fallbackFits : fallback < twoTo 32)
    (gives : (Decode.Record.defaulted name (Decode.unsigned 32) fallback).Gives fields
      (.done amount)) : amount < twoTo 32 := by
  cases found : Fields.get? name fields with
  | some value =>
      have reads := Decode.Record.decode_of_gives_field found gives
      unfold Decode.unsigned at reads
      split at reads
      · split at reads
        · cases reads
          omega
        · cases reads
      · cases reads
  | none =>
      have same := Decode.Record.fallback_of_gives_field found gives
      cases same
      exact fallbackFits

theorem fits_of_rereads {timeout : UnfilledTimeout}
    (rereads : Decode.Rereads decode encode timeout) : timeout.Fits := by
  suffices reads : ∀ fields, Decode.Record.Reads record fields Fits from
    reads _ timeout (Decode.Record.gives_of_decoder rereads)
  intro fields
  refine .seq (.seq (.seq (.map ?_)))
  intro entry entryGives exit exitGives count countGives unit unitGives
  exact ⟨fits_of_gives (by decide) entryGives, fits_of_gives (by decide) exitGives⟩

end UnfilledTimeout

/-- A length of time that passes, and that a length can hold. -/
structure Duration.Proper (duration : Duration) : Prop where
  positive : duration.isPositive = true
  secondsFit : duration.seconds < twoTo 64
  nanosecondsFit : duration.nanoseconds < Duration.nanosecondsPerSecond

theorem Duration.proper_of_seconds {seconds : Nat} (positive : 0 < seconds)
    (fits : seconds < twoTo 64) : Duration.Proper ⟨seconds, 0⟩ where
  positive := by
    have noRest : 0 < nanosecondsPerSecond := by decide
    rw [isPositive_eq_true_iff, total, Nat.add_zero]
    exact Nat.mul_pos positive noRest
  secondsFit := fits
  nanosecondsFit := Nat.zero_lt_succ _

theorem TimeoutUnit.proper_times {amount : Nat} (positive : 0 < amount) (fits : amount < twoTo 32)
    (unit : TimeoutUnit) : (unit.times amount).Proper := by
  have small : twoTo 32 * 60 < twoTo 64 := by decide
  cases unit with
  | seconds => exact Duration.proper_of_seconds positive (by omega)
  | minutes => exact Duration.proper_of_seconds (by omega) (by omega)

namespace Loader

open Binary64 (unitsPerOne)

/-- The timeouts of a configuration that is loaded are proper lengths of time.  The time between two
turns is one as well, up to half a nanosecond, exactly if it is below `2 ^ 64` seconds and above
half a nanosecond. -/
theorem load_durations {loader : Loader} {world : World} {sources : List Source} {config : Config}
    (loads : (loader.load world sources).outcome = .ok config) :
    config.unfilledTimeout.entryDuration.Proper ∧ config.unfilledTimeout.exitDuration.Proper ∧
    (config.internals.throttleDuration? = none ↔
      twoTo 64 * unitsPerOne ≤ config.internals.throttle.magnitude) ∧
    ∀ duration, config.internals.throttleDuration? = some duration →
      duration.Nearest config.internals.throttle ∧
      (duration.Proper ↔
        unitsPerOne <
          2 * (config.internals.throttle.magnitude * Duration.nanosecondsPerSecond)) := by
  have acceptable := (acceptable_load loader world sources config loads).fields
  have fits := UnfilledTimeout.fits_of_rereads
    (sound_load loader world sources config loads).unfilledTimeout
  have positive : Binary64.zero false < config.internals.throttle := acceptable.internals
  refine ⟨TimeoutUnit.proper_times acceptable.unfilledTimeout.entry fits.entry _,
    TimeoutUnit.proper_times acceptable.unfilledTimeout.exit fits.exit _,
    Duration.ofSeconds?_eq_none_iff positive, fun duration found => ?_⟩
  have nearest := Duration.nearest_of_ofSeconds? positive found
  refine ⟨nearest, ?_⟩
  rw [← Duration.isPositive_iff_of_ofSeconds? positive found]
  exact ⟨Duration.Proper.positive, fun passes =>
    ⟨passes, nearest.secondsFit, nearest.nanosecondsFit⟩⟩

theorem load_durations_small :
    ∃ config, (load ⟨none⟩ ⟨fun _ => .error .notFound, []⟩ [small]).outcome = .ok config ∧
      config.unfilledTimeout.entryDuration.Proper ∧ config.unfilledTimeout.exitDuration.Proper ∧
      ∃ duration, config.internals.throttleDuration? = some duration ∧ duration.Proper := by
  have reads : (load ⟨none⟩ ⟨fun _ => .error .notFound, []⟩ [small]).outcome.toOption.any
      (fun config => decide (unitsPerOne <
        2 * (config.internals.throttle.magnitude * Duration.nanosecondsPerSecond)) &&
          decide (config.internals.throttleDuration? = some ⟨5, 0⟩)) = true := by
    decide +kernel
  obtain ⟨config, loads, facts⟩ := Traced.exists_eq_ok_of_any reads
  rw [Bool.and_eq_true, decide_eq_true_eq, decide_eq_true_eq] at facts
  obtain ⟨long, throttle⟩ := facts
  obtain ⟨entry, exit, -, proper⟩ := load_durations loads
  exact ⟨config, loads, entry, exit, _, throttle, (proper _ throttle).2.mpr long⟩

/-- A document with a time between two turns. -/
def small.throttled (seconds : String) : Source :=
  .inline "small.yaml" ("max_open_trades: 3\nstake_currency: USDT\n" ++
    "exchange:\n  name: kraken\n  pair_whitelist: [BTC/USDT]\n" ++
    "internals:\n  process_throttle_secs: " ++ seconds)

/-- A time between two turns may be too long for a length of time, and one that is above zero may
become no time at all. -/
theorem load_durations_extreme :
    (∃ config, (load ⟨none⟩ ⟨fun _ => .error .notFound, []⟩ [small.throttled "1e300"]).outcome =
        .ok config ∧ config.internals.throttleDuration? = none) ∧
    ∃ config, (load ⟨none⟩ ⟨fun _ => .error .notFound, []⟩ [small.throttled "4e-10"]).outcome =
        .ok config ∧ config.internals.throttleDuration? = some ⟨0, 0⟩ := by
  have tooLong : (load ⟨none⟩ ⟨fun _ => .error .notFound, []⟩
      [small.throttled "1e300"]).outcome.toOption.any (fun config =>
        decide (config.internals.throttleDuration? = none)) = true := by
    decide +kernel
  have tooShort : (load ⟨none⟩ ⟨fun _ => .error .notFound, []⟩
      [small.throttled "4e-10"]).outcome.toOption.any (fun config =>
        decide (config.internals.throttleDuration? = some ⟨0, 0⟩)) = true := by
    decide +kernel
  obtain ⟨config, loads, long⟩ := Traced.exists_eq_ok_of_any tooLong
  obtain ⟨other, otherLoads, short⟩ := Traced.exists_eq_ok_of_any tooShort
  exact ⟨⟨config, loads, of_decide_eq_true long⟩, other, otherLoads, of_decide_eq_true short⟩

end Loader

end BotConfig
