import Mathlib.Algebra.Order.Field.Power
import Mathlib.Data.List.TakeWhile
import Mathlib.Tactic.FieldSimp
import Mathlib.Tactic.GCongr
import Mathlib.Tactic.Linarith
import Mathlib.Tactic.LinearCombination
import Mathlib.Tactic.NormNum
import Mathlib.Tactic.Positivity
import Mathlib.Tactic.Ring
import BotConfig.Proofs.Amounts
import BotConfig.Proofs.Rounding
import BotConfig.Proofs.Scanning

/-!
The text of a number tells it from all other numbers.

A decimal that reads back to two magnitudes shows that they are the same, and with seventeen digits
there is always one that reads back.  The text gives the decimal and the sign.
-/

namespace BotConfig.Binary64

open Strict (IsNumeric)

theorem cast_tenTo (exponent : Nat) : ((tenTo exponent : Nat) : ℚ) = 10 ^ exponent :=
  Nat.cast_pow 10 exponent

/-! ### Decimals as rational numbers -/

namespace Digits

/-- The number that a decimal stands for. -/
def value (d : Digits) : ℚ := d.coefficient * 10 ^ d.power

/-- A decimal as a count of quarters of the smallest number. -/
def quarters (d : Digits) : ℚ := d.value * (4 * unitsPerOne)

theorem compare_of_scaled {a b : Nat} {first second scale : ℚ} (positive : 0 < scale)
    (firstScaled : (a : ℚ) = first * scale) (secondScaled : (b : ℚ) = second * scale) :
    compare a b = compare first second := by
  rcases lt_trichotomy first second with less | rfl | greater
  · have scaled : (a : ℚ) < b := by
      rw [firstScaled, secondScaled]
      exact mul_lt_mul_of_pos_right less positive
    rw [compare_lt_iff_lt.mpr less, compare_lt_iff_lt.mpr (Nat.cast_lt.mp scaled)]
  · have same : a = b := Nat.cast_injective (firstScaled.trans secondScaled.symm)
    rw [compare_eq_iff_eq.mpr same, compare_eq_iff_eq.mpr rfl]
  · have scaled : (b : ℚ) < a := by
      rw [firstScaled, secondScaled]
      exact mul_lt_mul_of_pos_right greater positive
    rw [compare_gt_iff_gt.mpr greater, compare_gt_iff_gt.mpr (Nat.cast_lt.mp scaled)]

theorem value_of_negative {d : Digits} (negative : d.power < 0) :
    d.value * 10 ^ d.power.natAbs = d.coefficient := by
  have cancels : (10 : ℚ) ^ d.power * 10 ^ d.power.natAbs = 1 := by
    rw [← zpow_natCast, ← zpow_add₀ (by norm_num), Int.natCast_natAbs, abs_of_neg negative,
      add_neg_cancel, zpow_zero]
  rw [value, mul_assoc, cancels, mul_one]

theorem value_of_nonnegative {d : Digits} (nonnegative : ¬ d.power < 0) :
    d.value = d.coefficient * 10 ^ d.power.natAbs := by
  rw [value, ← zpow_natCast, Int.natCast_natAbs, abs_of_nonneg (not_lt.mp nonnegative)]

theorem compareQuarters_eq (d : Digits) (count : Nat) :
    d.compareQuarters count = compare d.quarters (count : ℚ) := by
  unfold compareQuarters
  split
  · rename_i negative
    refine compare_of_scaled (show (0 : ℚ) < 10 ^ d.power.natAbs by positivity) ?_ ?_
    · push_cast
      rw [quarters, ← value_of_negative negative]
      ring
    · rw [Nat.cast_mul, cast_tenTo]
  · rename_i nonnegative
    refine compare_of_scaled one_pos ?_ (mul_one _).symm
    rw [quarters, value_of_nonnegative nonnegative, mul_one]
    push_cast [cast_tenTo]
    rfl

theorem quarters_congr {d other : Digits} (same : d.value = other.value) :
    d.quarters = other.quarters := by
  rw [quarters, quarters, same]

theorem value_strip (fuel : Nat) (d : Digits) : (strip fuel d).value = d.value := by
  induction fuel generalizing d with
  | zero => rfl
  | succ fuel inductionHypothesis =>
      unfold strip
      split
      · rename_i trailing
        rw [inductionHypothesis]
        have whole : ((d.coefficient / 10 : ℕ) : ℚ) * 10 = d.coefficient := by
          have divides := Nat.div_mul_cancel (Nat.dvd_of_mod_eq_zero trailing.1)
          exact_mod_cast divides
        change ((d.coefficient / 10 : ℕ) : ℚ) * 10 ^ (d.power + 1) = d.coefficient * 10 ^ d.power
        rw [← whole, zpow_add_one₀ (by norm_num)]
        ring
      · rfl

end Digits

/-! ### Decimals that read back -/

/-- The least count of quarters that rounds to the magnitude, for an even mantissa. -/
def lowest (x : Binary64) : Nat :=
  (4 * x.mantissa - if x.mantissa == twoTo 52 && 0 < x.exponent then 1 else 2) * twoTo x.exponent

/-- The greatest count of quarters that rounds to the magnitude, for an even mantissa. -/
def highest (x : Binary64) : Nat := (4 * x.mantissa + 2) * twoTo x.exponent

/-- A count of quarters rounds to the magnitude: it lies between the midpoints to the neighbours,
which themselves round to the even side. -/
structure Admits (x : Binary64) (quarters : ℚ) : Prop where
  low : (x.lowest : ℚ) ≤ quarters
  high : quarters ≤ x.highest
  inside : x.mantissa % 2 = 1 → (x.lowest : ℚ) < quarters ∧ quarters < x.highest

theorem readsBack_iff (x : Binary64) (d : Digits) :
    readsBack x d = true ↔ x.Admits d.quarters := by
  unfold readsBack
  dsimp only
  change ((d.compareQuarters x.lowest == .gt || (x.mantissa % 2 == 0 &&
      d.compareQuarters x.lowest == .eq)) && (d.compareQuarters x.highest == .lt ||
      (x.mantissa % 2 == 0 && d.compareQuarters x.highest == .eq))) = true ↔ _
  simp only [Digits.compareQuarters_eq, Bool.and_eq_true, Bool.or_eq_true, beq_iff_eq,
    compare_gt_iff_gt, compare_lt_iff_lt, compare_eq_iff_eq]
  have parity := Nat.mod_two_eq_zero_or_one x.mantissa
  constructor
  · rintro ⟨low, high⟩
    refine ⟨?_, ?_, ?_⟩
    · rcases low with low | ⟨-, low⟩
      · exact le_of_lt low
      · exact low.ge
    · rcases high with high | ⟨-, high⟩
      · exact high.le
      · exact high.le
    · intro odd
      refine ⟨?_, ?_⟩
      · exact low.resolve_right fun even => by omega
      · exact high.resolve_right fun even => by omega
  · rintro ⟨low, high, inside⟩
    rcases parity with even | odd
    · refine ⟨?_, ?_⟩
      · exact low.lt_or_eq.imp id fun same => ⟨even, same.symm⟩
      · exact high.lt_or_eq.imp id fun same => ⟨even, same⟩
    · exact ⟨.inl (inside odd).1, .inl (inside odd).2⟩

theorem twoTo_52 : twoTo 52 = 4503599627370496 := rfl

theorem twoTo_53 : twoTo 53 = 9007199254740992 := rfl

/-- What rounds to a magnitude lies far above what is written with a smaller exponent. -/
theorem le_lowest_of_exponent_lt {x y : Binary64} (exponents : x.exponent < y.exponent) :
    36028797018963966 * twoTo x.exponent ≤ y.lowest := by
  obtain ⟨-, -, yLarge⟩ := y.canonical
  rw [twoTo_52] at yLarge
  have large : 4503599627370496 ≤ y.mantissa := by omega
  obtain ⟨gap, exponent⟩ := Nat.exists_eq_add_of_lt exponents
  have power : twoTo y.exponent = 2 * twoTo gap * twoTo x.exponent := by
    change 2 ^ y.exponent = 2 * 2 ^ gap * 2 ^ x.exponent
    rw [exponent]
    ring
  have factor : 18014398509481983 ≤ 4 * y.mantissa -
      if y.mantissa == 4503599627370496 && 0 < y.exponent then 1 else 2 := by
    split
    · omega
    · rename_i notNarrow
      have notLeast : y.mantissa ≠ 4503599627370496 := by
        intro least
        apply notNarrow
        rw [least, beq_self_eq_true, Bool.true_and, decide_eq_true_eq]
        omega
      omega
  unfold lowest
  rw [twoTo_52, power, ← Nat.mul_assoc]
  apply Nat.mul_le_mul_right
  calc 36028797018963966 = 18014398509481983 * 2 := rfl
    _ ≤ _ := Nat.mul_le_mul factor (Nat.le_mul_of_pos_right 2 (twoTo_pos gap))

/-- What rounds to a magnitude does not lie above what rounds to a greater one, and where they meet
one of the two mantissas is odd. -/
theorem highest_le_lowest {x y : Binary64}
    (less : x.exponent < y.exponent ∨ x.exponent = y.exponent ∧ x.mantissa < y.mantissa) :
    x.highest ≤ y.lowest ∧
      (x.highest = y.lowest → x.mantissa % 2 = 1 ∨ y.mantissa % 2 = 1) := by
  have positive := twoTo_pos x.exponent
  rcases less with exponents | ⟨exponents, mantissas⟩
  · obtain ⟨xFits, -, -⟩ := x.canonical
    rw [twoTo_53] at xFits
    have far := le_lowest_of_exponent_lt exponents
    unfold highest
    refine ⟨(Nat.mul_le_mul_right _ (by omega)).trans far, ?_⟩
    intro meets
    rw [← meets] at far
    have most := Nat.le_of_mul_le_mul_right far positive
    left
    omega
  · unfold highest lowest
    rw [twoTo_52, ← exponents]
    refine ⟨?_, ?_⟩
    · apply Nat.mul_le_mul_right
      split <;> omega
    · intro meets
      have same := Nat.eq_of_mul_eq_mul_right positive meets
      split at same <;> omega

theorem Admits.not_less {x y : Binary64} {quarters : ℚ} (first : x.Admits quarters)
    (second : y.Admits quarters) :
    ¬ (x.exponent < y.exponent ∨ x.exponent = y.exponent ∧ x.mantissa < y.mantissa) := by
  intro less
  obtain ⟨apart, odd⟩ := highest_le_lowest less
  have apartQuarters : (x.highest : ℚ) ≤ y.lowest := Nat.cast_le.mpr apart
  have meets : x.highest = y.lowest := by
    have meeting : (x.highest : ℚ) = y.lowest :=
      apartQuarters.antisymm (second.low.trans first.high)
    exact_mod_cast meeting
  rw [← meets] at apartQuarters
  rcases odd meets with xOdd | yOdd
  · have below := (first.inside xOdd).2
    have above := second.low
    rw [← meets] at above
    exact absurd below above.not_gt
  · have above := (second.inside yOdd).1
    have below := first.high
    rw [← meets] at above
    exact absurd above below.not_gt

/-- Only one magnitude reads back from a decimal. -/
theorem Admits.magnitude_unique {x y : Binary64} {quarters : ℚ} (first : x.Admits quarters)
    (second : y.Admits quarters) : x.mantissa = y.mantissa ∧ x.exponent = y.exponent := by
  have notLess := first.not_less second
  have notGreater := second.not_less first
  omega

/-! ### Seventeen digits -/

/-- The magnitude as a rational number. -/
def size (x : Binary64) : ℚ := x.magnitude / unitsPerOne

theorem cast_unitsPerOne_pos : (0 : ℚ) < unitsPerOne := Nat.cast_pos.mpr unitsPerOne_pos

theorem size_mul_unitsPerOne (x : Binary64) : x.size * unitsPerOne = x.magnitude :=
  div_mul_cancel₀ _ cast_unitsPerOne_pos.ne'

theorem lowest_lt (x : Binary64) (notZero : x.mantissa ≠ 0) :
    x.lowest * 10 ^ 16 + 2 * x.magnitude < 4 * 10 ^ 16 * x.magnitude := by
  obtain ⟨fits, -, -⟩ := x.canonical
  rw [twoTo_53] at fits
  unfold lowest magnitude
  rw [Nat.mul_right_comm, ← Nat.mul_assoc, ← Nat.mul_assoc, ← Nat.add_mul]
  apply Nat.mul_lt_mul_of_pos_right _ (twoTo_pos _)
  split
  · rename_i narrow
    rw [Bool.and_eq_true, beq_iff_eq, twoTo_52] at narrow
    omega
  · omega

theorem lt_highest (x : Binary64) :
    4 * 10 ^ 16 * x.magnitude + 2 * x.magnitude < x.highest * 10 ^ 16 := by
  obtain ⟨fits, -, -⟩ := x.canonical
  rw [twoTo_53] at fits
  unfold highest magnitude
  rw [Nat.mul_right_comm _ _ (10 ^ 16), ← Nat.mul_assoc, ← Nat.mul_assoc, ← Nat.add_mul]
  apply Nat.mul_lt_mul_of_pos_right _ (twoTo_pos _)
  omega

/-- What differs from a magnitude in the seventeenth digit only rounds to it. -/
theorem admits_of_near {x : Binary64} (notZero : x.mantissa ≠ 0) {quarters : ℚ}
    (near : |quarters - 4 * x.magnitude| * 10 ^ 16 ≤ 2 * x.magnitude) : x.Admits quarters := by
  have low : (x.lowest : ℚ) * 10 ^ 16 + 2 * x.magnitude < 4 * 10 ^ 16 * x.magnitude := by
    exact_mod_cast x.lowest_lt notZero
  have high : (4 * 10 ^ 16 * x.magnitude + 2 * x.magnitude : ℚ) < x.highest * 10 ^ 16 := by
    exact_mod_cast x.lt_highest
  obtain ⟨above, below⟩ := abs_le.mp ((le_div_iff₀ (by norm_num)).mpr near)
  have strictlyAbove : (x.lowest : ℚ) < quarters := by linarith
  have strictlyBelow : quarters < x.highest := by linarith
  exact ⟨strictlyAbove.le, strictlyBelow.le, fun _ => ⟨strictlyAbove, strictlyBelow⟩⟩

/-- One of the two points of a grid around a number is at most half a step away. -/
theorem near_grid {numerator denominator : Nat} (positive : 0 < denominator) {target step : ℚ}
    (stepPositive : 0 < step) (ratio : numerator * step = target * denominator) :
    |((numerator / denominator : Nat) : ℚ) * step - target| ≤ step / 2 ∨
      |((numerator / denominator + 1 : Nat) : ℚ) * step - target| ≤ step / 2 := by
  have castPositive : (0 : ℚ) < denominator := Nat.cast_pos.mpr positive
  have divided : (denominator : ℚ) * (numerator / denominator : Nat) +
      (numerator % denominator : Nat) = numerator := by
    exact_mod_cast Nat.div_add_mod numerator denominator
  have remainder : ((numerator % denominator : Nat) : ℚ) < denominator :=
    Nat.cast_lt.mpr (Nat.mod_lt _ positive)
  have notNegative : (0 : ℚ) ≤ (numerator % denominator : Nat) := Nat.cast_nonneg _
  rcases le_total (2 * ((numerator % denominator : Nat) : ℚ)) denominator with lower | upper
  · left
    apply le_of_mul_le_mul_right _ castPositive
    have distance : (((numerator / denominator : Nat) : ℚ) * step - target) * denominator =
        -((numerator % denominator : Nat) * step) := by
      linear_combination step * divided + ratio
    rw [← abs_of_pos castPositive, ← abs_mul, abs_of_pos castPositive, distance, abs_neg,
      abs_of_nonneg (mul_nonneg notNegative stepPositive.le)]
    nlinarith only [lower, stepPositive]
  · right
    apply le_of_mul_le_mul_right _ castPositive
    have distance : (((numerator / denominator + 1 : Nat) : ℚ) * step - target) * denominator =
        (denominator - (numerator % denominator : Nat)) * step := by
      push_cast
      linear_combination step * divided + ratio
    rw [← abs_of_pos castPositive, ← abs_mul, abs_of_pos castPositive, distance,
      abs_of_nonneg (mul_nonneg (sub_nonneg.mpr remainder.le) stepPositive.le)]
    nlinarith only [upper, stepPositive]

/-- A grid point at most half a step away reads back when sixteen digits are not enough to leave
it. -/
theorem readsBack_of_near_grid {x : Binary64} (notZero : x.mantissa ≠ 0) {d : Digits}
    (fine : (10 : ℚ) ^ d.power * 10 ^ 16 ≤ x.size)
    (near : |d.value - x.size| ≤ (10 : ℚ) ^ d.power / 2) :
    readsBack x d = true := by
  rw [readsBack_iff]
  apply admits_of_near notZero
  have unitsPositive := cast_unitsPerOne_pos
  rw [Digits.quarters, ← size_mul_unitsPerOne]
  generalize (unitsPerOne : ℚ) = units at unitsPositive ⊢
  have distance : d.value * (4 * units) - 4 * (x.size * units) =
      (d.value - x.size) * (4 * units) := by ring
  rw [distance, abs_mul, abs_of_pos (mul_pos four_pos unitsPositive)]
  calc |d.value - x.size| * (4 * units) * 10 ^ 16
      ≤ (10 : ℚ) ^ d.power / 2 * (4 * units) * 10 ^ 16 := by gcongr
    _ = 2 * units * ((10 : ℚ) ^ d.power * 10 ^ 16) := by ring
    _ ≤ 2 * units * x.size := by gcongr
    _ = 2 * (x.size * units) := by ring

theorem readsBack_of_onGrid? {tie : Tie} {x : Binary64} {power : Int} {d : Digits}
    (found : onGrid? tie x power = some d) : readsBack x d = true := by
  unfold onGrid? at found
  extract_lets numerator denominator lower twice lowerReads upperReads takeUpper at found
  clear_value numerator denominator takeUpper
  split at found
  · rename_i both
    rw [Bool.and_eq_true] at both
    cases found
    split
    · exact both.2
    · exact both.1
  · split at found
    · rename_i lower
      cases found
      exact lower
    · split at found
      · rename_i upper
        cases found
        exact upper
      · cases found

theorem isSome_onGrid? (tie : Tie) {x : Binary64} (notZero : x.mantissa ≠ 0) {power : Int}
    (fine : (10 : ℚ) ^ power * 10 ^ 16 ≤ x.size) : (onGrid? tie x power).isSome = true := by
  obtain ⟨numerator, numeratorEq⟩ : ∃ numerator, numerator =
      if power < 0 then x.magnitude * tenTo power.natAbs else x.magnitude := ⟨_, rfl⟩
  obtain ⟨denominator, denominatorEq⟩ : ∃ denominator, denominator =
      if power < 0 then unitsPerOne else unitsPerOne * tenTo power.natAbs := ⟨_, rfl⟩
  have positive : 0 < denominator := by
    rw [denominatorEq]
    split
    · exact unitsPerOne_pos
    · exact Nat.mul_pos unitsPerOne_pos (Nat.pow_pos (by decide))
  have ratio : (numerator : ℚ) * 10 ^ power = x.size * denominator := by
    rw [numeratorEq, denominatorEq]
    split
    · rename_i negative
      have scaled : (x.magnitude : ℚ) * 10 ^ power * 10 ^ power.natAbs = x.magnitude :=
        Digits.value_of_negative (d := ⟨x.magnitude, power⟩) negative
      rw [size_mul_unitsPerOne, Nat.cast_mul, cast_tenTo]
      linear_combination scaled
    · rename_i nonnegative
      have scaled : (x.magnitude : ℚ) * 10 ^ power = x.magnitude * 10 ^ power.natAbs :=
        Digits.value_of_nonnegative (d := ⟨x.magnitude, power⟩) nonnegative
      rw [Nat.cast_mul, cast_tenTo, ← mul_assoc, size_mul_unitsPerOne]
      exact scaled
  unfold onGrid?
  dsimp only
  rw [← numeratorEq, ← denominatorEq]
  have reads := near_grid positive (by positivity : (0 : ℚ) < 10 ^ power) ratio
  obtain lower | upper := reads
  · rw [readsBack_of_near_grid notZero (d := ⟨numerator / denominator, power⟩) fine lower]
    split <;> rfl
  · rw [readsBack_of_near_grid notZero (d := ⟨numerator / denominator + 1, power⟩) fine upper]
    split
    · rfl
    · split <;> rfl

/-! ### The shortest decimal -/

theorem lt_pow_decimalLength (n : Nat) : n < 10 ^ decimalLength n :=
  (Nat.length_toDigits_le_iff (by decide) Nat.length_toDigits_pos).mp le_rfl

theorem pow_le_of_ne_zero {n : Nat} (notZero : n ≠ 0) : 10 ^ (decimalLength n - 1) ≤ n := by
  by_contra less
  rw [not_le] at less
  rcases Nat.eq_zero_or_pos (decimalLength n - 1) with single | several
  · rw [single] at less
    omega
  · have shorter := (Nat.length_toDigits_le_iff (by decide) several).mpr less
    have atLeastOne : 0 < decimalLength n := Nat.length_toDigits_pos
    unfold decimalLength at shorter atLeastOne
    omega

/-- The scale of a number tells the place of its first digit. -/
theorem pow_scale_le (x : Binary64) (notZero : x.mantissa ≠ 0) :
    (10 : ℚ) ^ (x.scale - 1) ≤ x.size := by
  have positive : 0 < x.magnitude :=
    Nat.pos_of_ne_zero (mt (magnitude_eq_zero_iff x).mp notZero)
  have castPositive : (0 : ℚ) < x.magnitude := Nat.cast_pos.mpr positive
  have unitsPositive := cast_unitsPerOne_pos
  -- A number at least as large as a negative power of ten.
  have small {places : Nat} (large : unitsPerOne ≤ x.magnitude * 10 ^ places) :
      (10 : ℚ) ^ (-(places : ℤ)) ≤ x.size := by
    rw [zpow_neg, zpow_natCast, size, inv_eq_one_div, div_le_div_iff₀ (by positivity) unitsPositive,
      one_mul]
    exact_mod_cast large
  unfold scale
  dsimp only
  split
  · rename_i whole
    have atLeastOne : 0 < decimalLength (x.magnitude / unitsPerOne) := Nat.length_toDigits_pos
    have power : ((decimalLength (x.magnitude / unitsPerOne) : ℤ) - 1) =
        ((decimalLength (x.magnitude / unitsPerOne) - 1 : Nat) : ℤ) := by omega
    rw [power, zpow_natCast, size, le_div_iff₀ unitsPositive]
    have bound := (Nat.le_div_iff_mul_le unitsPerOne_pos).mp (pow_le_of_ne_zero whole.ne')
    exact_mod_cast bound
  · have atLeastOne : 0 < decimalLength (unitsPerOne / x.magnitude) := Nat.length_toDigits_pos
    split
    · have power : (1 : ℤ) - decimalLength (unitsPerOne / x.magnitude) - 1 =
          -(decimalLength (unitsPerOne / x.magnitude) : ℤ) := by omega
      rw [power]
      apply small
      have bound := (Nat.div_lt_iff_lt_mul positive).mp
        (lt_pow_decimalLength (unitsPerOne / x.magnitude))
      rw [Nat.mul_comm]
      exact bound.le
    · rename_i notBelow
      have power : (2 : ℤ) - decimalLength (unitsPerOne / x.magnitude) - 1 =
          -((decimalLength (unitsPerOne / x.magnitude) - 1 : Nat) : ℤ) := by omega
      rw [power]
      exact small (not_lt.mp notBelow)

/-- The shortest decimal reads back. -/
theorem admits_shortest (tie : Tie) {x : Binary64} (notZero : x.mantissa ≠ 0) :
    x.Admits (shortest tie x).quarters := by
  have fine : (10 : ℚ) ^ (x.scale - (16 + 1 : Nat)) * 10 ^ 16 ≤ x.size := by
    rw [← zpow_natCast (10 : ℚ) 16, ← zpow_add₀ (by norm_num)]
    have power : x.scale - (16 + 1 : Nat) + (16 : Nat) = x.scale - 1 := by push_cast; ring
    rw [power]
    exact x.pow_scale_le notZero
  have found : ((List.range 17).findSome? fun n =>
      onGrid? tie x (x.scale - (n + 1 : Nat))).isSome = true := by
    rw [List.findSome?_isSome_iff]
    exact ⟨16, List.mem_range.mpr (by decide), isSome_onGrid? tie notZero fine⟩
  obtain ⟨d, isFound⟩ := Option.isSome_iff_exists.mp found
  obtain ⟨n, -, onGrid⟩ := List.exists_of_findSome?_eq_some isFound
  unfold shortest
  dsimp only
  rw [isFound, Option.getD_some, Digits.quarters_congr (Digits.value_strip 20 d)]
  exact (readsBack_iff x d).mp (readsBack_of_onGrid? onGrid)

/-- Numbers with one shortest decimal have one magnitude. -/
theorem eq_of_value_shortest {tie : Tie} {x y : Binary64} (notZero : x.mantissa ≠ 0)
    (otherNotZero : y.mantissa ≠ 0) (same : (shortest tie x).value = (shortest tie y).value) :
    x.mantissa = y.mantissa ∧ x.exponent = y.exponent := by
  have admits := admits_shortest tie notZero
  rw [Digits.quarters_congr same] at admits
  exact admits.magnitude_unique (admits_shortest tie otherNotZero)

theorem value_shortest_ne_zero (tie : Tie) {x : Binary64} (notZero : x.mantissa ≠ 0) :
    (shortest tie x).value ≠ 0 := by
  intro isZero
  have low := (admits_shortest tie notZero).low
  rw [Digits.quarters, isZero, zero_mul, Nat.cast_nonpos] at low
  have positive : 0 < x.lowest := by
    unfold lowest
    apply Nat.mul_pos _ (twoTo_pos _)
    split <;> omega
  omega

/-! ### What a text stands for -/

/-- The digits before and behind a point as one natural number. -/
def coefficientOf (digits : List Char) : Nat := Nat.ofDigitChars 10 (digits.filter (· != '.')) 0

/-- The number of digits behind a point. -/
def placesOf (digits : List Char) : Nat := (digits.dropWhile (· != '.')).tail.length

/-- The exponent behind its mark. -/
def exponentOf : List Char → Int
  | '-' :: digits => -(Nat.ofDigitChars 10 digits 0 : Int)
  | text => Nat.ofDigitChars 10 text.tail 0

/-- The number that a text without a sign stands for. -/
def textValue (text : List Char) : ℚ :=
  coefficientOf (text.takeWhile (· != 'e')) *
    10 ^ (exponentOf (text.dropWhile (· != 'e')).tail - placesOf (text.takeWhile (· != 'e')))

def AllDigits (text : List Char) : Prop := ∀ c ∈ text, c.isDigit = true

theorem AllDigits.append {first second : List Char} (firstDigits : AllDigits first)
    (secondDigits : AllDigits second) : AllDigits (first ++ second) :=
  List.forall_mem_append.mpr ⟨firstDigits, secondDigits⟩

theorem AllDigits.take {text : List Char} (digits : AllDigits text) {count : Nat} :
    AllDigits (text.take count) := fun c taken => digits c (List.mem_of_mem_take taken)

theorem AllDigits.drop {text : List Char} (digits : AllDigits text) {count : Nat} :
    AllDigits (text.drop count) := fun c dropped => digits c (List.mem_of_mem_drop dropped)

theorem AllDigits.numeric {text : List Char} (digits : AllDigits text) : ∀ c ∈ text, IsNumeric c :=
  fun c membership => .inl (digits c membership)

theorem AllDigits.ne {text : List Char} (digits : AllDigits text) {mark : Char}
    (noDigit : mark.isDigit = false) : ∀ c ∈ text, (c != mark) = true := by
  intro c membership
  rw [bne_iff_ne]
  rintro rfl
  exact Bool.false_ne_true (noDigit.symm.trans (digits c membership))

theorem allDigits_toDigits (n : Nat) : AllDigits (Nat.toDigits 10 n) :=
  fun _ membership => Nat.isDigit_of_mem_toDigits (by decide) (by decide) membership

theorem allDigits_zeros (n : Nat) : AllDigits (List.replicate n '0') := by
  intro c membership
  rw [List.eq_of_mem_replicate membership]
  rfl

/-- Digits with a point between them, which may be left out behind the last digit. -/
structure Pointed (text whole places : List Char) : Prop where
  wholeDigits : AllDigits whole
  placeDigits : AllDigits places
  parts : text = whole ++ '.' :: places ∨ text = whole ∧ places = []

namespace Pointed

variable {text whole places : List Char}

theorem coefficientOf_eq (pointed : Pointed text whole places) :
    coefficientOf text = Nat.ofDigitChars 10 (whole ++ places) 0 := by
  have wholeKept := List.filter_eq_self.mpr (pointed.wholeDigits.ne (rfl : '.'.isDigit = false))
  have placesKept := List.filter_eq_self.mpr (pointed.placeDigits.ne (rfl : '.'.isDigit = false))
  unfold coefficientOf
  obtain rfl | ⟨rfl, rfl⟩ := pointed.parts
  · rw [List.filter_append, List.filter_cons_of_neg (by simp), wholeKept, placesKept]
  · rw [wholeKept, List.append_nil]

theorem placesOf_eq (pointed : Pointed text whole places) : placesOf text = places.length := by
  have wholeDropped := pointed.wholeDigits.ne (rfl : '.'.isDigit = false)
  unfold placesOf
  obtain rfl | ⟨rfl, rfl⟩ := pointed.parts
  · rw [List.dropWhile_append_of_pos wholeDropped, List.dropWhile_cons_of_neg (by simp),
      List.tail_cons]
  · rw [List.dropWhile_eq_nil_iff.mpr wholeDropped]
    rfl

theorem noMark (pointed : Pointed text whole places) : ∀ c ∈ text, (c != 'e') = true := by
  have wholeNoMark := pointed.wholeDigits.ne (rfl : 'e'.isDigit = false)
  have placesNoMark := pointed.placeDigits.ne (rfl : 'e'.isDigit = false)
  obtain rfl | ⟨rfl, rfl⟩ := pointed.parts
  · exact List.forall_mem_append.mpr ⟨wholeNoMark, List.forall_mem_cons.mpr ⟨rfl, placesNoMark⟩⟩
  · exact wholeNoMark

theorem numeric (pointed : Pointed text whole places) : ∀ c ∈ text, IsNumeric c := by
  obtain rfl | ⟨rfl, rfl⟩ := pointed.parts
  · exact List.forall_mem_append.mpr ⟨pointed.wholeDigits.numeric,
      List.forall_mem_cons.mpr ⟨.inr (.inl rfl), pointed.placeDigits.numeric⟩⟩
  · exact pointed.wholeDigits.numeric

theorem textValue_eq (pointed : Pointed text whole places) {d : Digits} (zeros : Nat)
    (joined : Nat.ofDigitChars 10 (whole ++ places) 0 = d.coefficient * 10 ^ zeros)
    (power : d.power = zeros - places.length) : textValue text = d.value := by
  unfold textValue
  rw [List.takeWhile_eq_self_iff.mpr pointed.noMark,
    List.dropWhile_eq_nil_iff.mpr pointed.noMark, pointed.coefficientOf_eq, pointed.placesOf_eq,
    joined, Digits.value, power, sub_eq_add_neg (zeros : ℤ), zpow_add₀ (by norm_num), zpow_natCast]
  push_cast
  rw [mul_assoc]
  congr 3
  exact zero_sub _

theorem textValue_mark (pointed : Pointed text whole places) {d : Digits} {exponent : List Char}
    (joined : Nat.ofDigitChars 10 (whole ++ places) 0 = d.coefficient)
    (power : d.power = exponentOf exponent - places.length) :
    textValue (text ++ 'e' :: exponent) = d.value := by
  unfold textValue
  rw [List.takeWhile_append_of_pos pointed.noMark, List.dropWhile_append_of_pos pointed.noMark,
    List.takeWhile_cons_of_neg (by simp), List.dropWhile_cons_of_neg (by simp), List.append_nil,
    List.tail_cons, pointed.coefficientOf_eq, pointed.placesOf_eq, joined, Digits.value, power]

end Pointed

/-! ### The layout of digits -/

theorem length_toString (n : Nat) : (toString n).length = (Nat.toDigits 10 n).length := by
  rw [← String.length_toList, Decimal.toList_toString]

theorem toList_zeros (n : Nat) : (zeros n).toList = List.replicate n '0' := String.toList_ofList

/-- A text of digits and marks that starts with a digit, and so without a sign. A point or the mark
of an exponent shows that it is not a whole number. -/
structure Unsigned (text : List Char) : Prop where
  starts : ∃ c rest, text = c :: rest ∧ c.isDigit = true
  numeric : ∀ c ∈ text, IsNumeric c
  marked : '.' ∈ text ∨ 'e' ∈ text

/-- A text without a sign stands for a decimal. -/
structure Writes (text : List Char) (d : Digits) : Prop where
  isUnsigned : Unsigned text
  value : textValue text = d.value

theorem AllDigits.starts {text : List Char} (digits : AllDigits text) (notEmpty : text ≠ [])
    (rest : List Char) : ∃ c others, text ++ rest = c :: others ∧ c.isDigit = true := by
  obtain ⟨c, others, rfl⟩ := List.exists_cons_of_ne_nil notEmpty
  exact ⟨c, others ++ rest, rfl, digits c List.mem_cons_self⟩

section Layout

variable {d : Digits}

theorem writes_leadingZeros {count : Nat}
    (power : d.power = -(count + (Nat.toDigits 10 d.coefficient).length : Nat)) :
    Writes ('0' :: '.' :: (List.replicate count '0' ++ Nat.toDigits 10 d.coefficient)) d := by
  have pointed : Pointed _ ['0'] _ :=
    ⟨allDigits_zeros 1, (allDigits_zeros count).append (allDigits_toDigits d.coefficient), .inl rfl⟩
  have marked : '.' ∈ '0' :: '.' ::
      (List.replicate count '0' ++ Nat.toDigits 10 d.coefficient) := by simp
  refine ⟨⟨⟨_, _, rfl, rfl⟩, pointed.numeric, .inl marked⟩, pointed.textValue_eq 0 ?_ ?_⟩
  · rw [← List.append_assoc, Nat.ofDigitChars_append, Nat.ofDigitChars_append,
      Nat.ofDigitChars_replicate_zero, pow_zero, mul_one]
    exact Nat.ofDigitChars_ten_toDigits
  · rw [List.length_append, List.length_replicate, power]
    exact (zero_sub _).symm

theorem writes_trailingZeros {count : Nat} (power : d.power = count) :
    Writes (Nat.toDigits 10 d.coefficient ++ List.replicate count '0' ++ ['.', '0']) d := by
  have digits := allDigits_toDigits d.coefficient
  have pointed : Pointed _ _ ['0'] :=
    ⟨digits.append (allDigits_zeros count), allDigits_zeros 1, .inl rfl⟩
  refine ⟨⟨?_, pointed.numeric, .inl (by simp)⟩, pointed.textValue_eq (count + 1) ?_ ?_⟩
  · rw [List.append_assoc]
    exact digits.starts Nat.toDigits_ne_nil _
  · rw [Nat.ofDigitChars_append, Nat.ofDigitChars_append, Nat.ofDigitChars_ten_toDigits,
      Nat.ofDigitChars_replicate_zero, pow_succ, mul_comm (10 ^ count), ← mul_assoc, mul_comm _ 10]
    exact Nat.ofDigitChars_replicate_zero (n := 1)
  · rw [power]
    push_cast
    exact (add_sub_cancel_right _ _).symm

theorem writes_point {count : Nat} (inside : 0 < count)
    (power : d.power = -((Nat.toDigits 10 d.coefficient).length - count : Nat)) :
    Writes ((Nat.toDigits 10 d.coefficient).take count ++
      '.' :: (Nat.toDigits 10 d.coefficient).drop count) d := by
  have digits := allDigits_toDigits d.coefficient
  have pointed : Pointed _ ((Nat.toDigits 10 d.coefficient).take count)
      ((Nat.toDigits 10 d.coefficient).drop count) :=
    ⟨digits.take, digits.drop, .inl rfl⟩
  refine ⟨⟨digits.take.starts ?_ _, pointed.numeric, .inl (by simp)⟩,
    pointed.textValue_eq 0 ?_ ?_⟩
  · rw [Ne, List.take_eq_nil_iff, not_or]
    exact ⟨inside.ne', Nat.toDigits_ne_nil⟩
  · rw [List.take_append_drop, pow_zero, mul_one, Nat.ofDigitChars_ten_toDigits]
  · rw [List.length_drop, power]
    exact (zero_sub _).symm

theorem exponentOf_sign (exponent : Int) :
    exponentOf ((if exponent < 0 then '-' else '+') :: Nat.toDigits 10 exponent.natAbs) =
      exponent := by
  split
  · rw [exponentOf, Nat.ofDigitChars_ten_toDigits]
    omega
  · rw [exponentOf, List.tail_cons, Nat.ofDigitChars_ten_toDigits]
    · omega
    · rintro _ ⟨⟩

theorem writes_exponent (exponent : Int)
    (power : d.power = exponent - ((Nat.toDigits 10 d.coefficient).drop 1).length) :
    Writes ((Nat.toDigits 10 d.coefficient).take 1 ++
      (if ((Nat.toDigits 10 d.coefficient).drop 1).isEmpty then []
        else '.' :: (Nat.toDigits 10 d.coefficient).drop 1) ++
      'e' :: (if exponent < 0 then '-' else '+') :: Nat.toDigits 10 exponent.natAbs) d := by
  have digits := allDigits_toDigits d.coefficient
  have pointed : Pointed ((Nat.toDigits 10 d.coefficient).take 1 ++
      if ((Nat.toDigits 10 d.coefficient).drop 1).isEmpty then []
        else '.' :: (Nat.toDigits 10 d.coefficient).drop 1)
      ((Nat.toDigits 10 d.coefficient).take 1) ((Nat.toDigits 10 d.coefficient).drop 1) := by
    refine ⟨digits.take, digits.drop, ?_⟩
    split
    · rename_i single
      exact .inr ⟨List.append_nil _, List.isEmpty_iff.mp single⟩
    · exact .inl rfl
  have exponentNumeric : ∀ c ∈ 'e' :: (if exponent < 0 then '-' else '+') ::
      Nat.toDigits 10 exponent.natAbs, IsNumeric c := by
    refine List.forall_mem_cons.mpr ⟨.inr (.inr (.inl rfl)), List.forall_mem_cons.mpr ⟨?_,
      (allDigits_toDigits _).numeric⟩⟩
    split <;> simp [IsNumeric]
  refine ⟨⟨?_, List.forall_mem_append.mpr ⟨pointed.numeric, exponentNumeric⟩, .inr (by simp)⟩,
    pointed.textValue_mark ?_ (by rw [exponentOf_sign, power])⟩
  · rw [List.append_assoc]
    apply digits.take.starts
    rw [Ne, List.take_eq_nil_iff, not_or]
    exact ⟨one_ne_zero, Nat.toDigits_ne_nil⟩
  · rw [List.take_append_drop, Nat.ofDigitChars_ten_toDigits]

end Layout

/-- Digits with a point stand for the decimal. -/
theorem writes_positional (d : Digits) :
    Writes (positional (toString d.coefficient) (d.power + (toString d.coefficient).length)
      ".0").toList d := by
  have written := Decimal.toList_toString d.coefficient
  unfold positional
  dsimp only
  rw [length_toString]
  split
  · rw [String.toList_append, String.toList_append, toList_zeros, written]
    exact writes_leadingZeros (by omega)
  · split
    · rw [String.toList_append, String.toList_append, toList_zeros, written]
      exact writes_trailingZeros (by omega)
    · simp only [String.toList_append, String.toList_ofList, written, List.append_assoc]
      exact writes_point (by omega) (by omega)

theorem toList_fraction (places : List Char) :
    (if (String.ofList places).isEmpty then "" else "." ++ String.ofList places).toList =
      if places.isEmpty then [] else '.' :: places := by
  cases places with
  | nil => rfl
  | cons c rest => simp

theorem toList_exponentSign (exponent : Int) :
    (if exponent < 0 then "-" else "+").toList = [if exponent < 0 then '-' else '+'] := by
  split <;> rfl

/-- The text of a number other than zero is its sign and its shortest decimal. -/
theorem exists_writes {x : Binary64} (notZero : x.mantissa ≠ 0) :
    ∃ body, x.text.toList = x.signText.toList ++ body ∧ Writes body (shortest .toEven x) := by
  have isZero : x.isZero = false := beq_eq_false_iff_ne.mpr notZero
  have written := Decimal.toList_toString (shortest .toEven x).coefficient
  unfold text
  rw [isZero]
  dsimp only
  rw [if_neg Bool.false_ne_true]
  split
  · exact ⟨_, String.toList_append, writes_positional _⟩
  · refine ⟨_, ?_, writes_exponent ((shortest .toEven x).power +
      (toString (shortest .toEven x).coefficient).length - 1) ?_⟩
    · simp only [String.toList_append, String.toList_ofList, written, List.append_assoc,
        toList_fraction, toList_exponentSign, Decimal.toList_toString]
      rfl
    · rw [length_toString, List.length_drop]
      have positive : 0 < (Nat.toDigits 10 (shortest .toEven x).coefficient).length :=
        Nat.length_toDigits_pos
      omega

/-! ### Numbers and their texts -/

/-- The size of a number as its text tells it. -/
def writtenSize (x : Binary64) : ℚ := if x.mantissa = 0 then 0 else (shortest .toEven x).value

theorem exists_body (x : Binary64) :
    ∃ body, x.text.toList = x.signText.toList ++ body ∧ Unsigned body ∧
      textValue body = x.writtenSize := by
  by_cases zero : x.mantissa = 0
  · have isZero : x.isZero = true := beq_iff_eq.mpr zero
    refine ⟨['0', '.', '0'], ?_, ⟨⟨_, _, rfl, rfl⟩, by simp [IsNumeric], .inl (by simp)⟩, ?_⟩
    · rw [text, isZero, if_pos rfl, String.toList_append]
      rfl
    · have noDigits : coefficientOf (['0', '.', '0'].takeWhile (· != 'e')) = 0 := rfl
      rw [writtenSize, if_pos zero, textValue, noDigits, Nat.cast_zero, zero_mul]
  · obtain ⟨body, layout, writes⟩ := exists_writes zero
    refine ⟨body, layout, writes.isUnsigned, ?_⟩
    rw [writtenSize, if_neg zero]
    exact writes.value

theorem eq_of_writtenSize {x y : Binary64} (same : x.writtenSize = y.writtenSize) :
    x.mantissa = y.mantissa ∧ x.exponent = y.exponent := by
  have exponentOfZero (z : Binary64) (zero : z.mantissa = 0) : z.exponent = 0 := by
    obtain ⟨-, -, small | large⟩ := z.canonical
    · exact small
    · rw [twoTo_52] at large
      omega
  unfold writtenSize at same
  by_cases zero : x.mantissa = 0 <;> by_cases otherZero : y.mantissa = 0
  · exact ⟨zero.trans otherZero.symm,
      (exponentOfZero x zero).trans (exponentOfZero y otherZero).symm⟩
  · rw [if_pos zero, if_neg otherZero] at same
    exact absurd same.symm (value_shortest_ne_zero _ otherZero)
  · rw [if_neg zero, if_pos otherZero] at same
    exact absurd same (value_shortest_ne_zero _ zero)
  · rw [if_neg zero, if_neg otherZero] at same
    exact eq_of_value_shortest zero otherZero same

theorem toList_signText (x : Binary64) :
    x.signText.toList = if x.negative then ['-'] else [] := by
  unfold signText
  split <;> rfl

/-- Of texts that start with a digit, each behind a sign or none, the signs are told apart. -/
theorem sign_append_inj {negative otherNegative : Bool} {first second : List Char}
    (firstDigit : ∃ c rest, first = c :: rest ∧ c.isDigit = true)
    (secondDigit : ∃ c rest, second = c :: rest ∧ c.isDigit = true)
    (same : (if negative then ['-'] else []) ++ first =
      (if otherNegative then ['-'] else []) ++ second) :
    negative = otherNegative ∧ first = second := by
  obtain ⟨c, rest, rfl, isDigit⟩ := firstDigit
  obtain ⟨d, others, rfl, otherIsDigit⟩ := secondDigit
  have noSign : '-'.isDigit ≠ true := by decide
  cases negative <;> cases otherNegative
  · exact ⟨rfl, same⟩
  · injection same with sign
    exact absurd (sign ▸ isDigit) noSign
  · injection same with sign
    exact absurd (sign ▸ otherIsDigit) noSign
  · injection same with _ bodies
    exact ⟨rfl, bodies⟩

/-- Different numbers have different texts, and so have the two zeros. -/
theorem text_injective : Function.Injective text := by
  intro x y same
  obtain ⟨body, layout, isUnsigned, value⟩ := exists_body x
  obtain ⟨other, otherLayout, otherUnsigned, otherValue⟩ := exists_body y
  rw [same, otherLayout, toList_signText, toList_signText] at layout
  obtain ⟨signs, rfl⟩ := sign_append_inj otherUnsigned.starts isUnsigned.starts layout
  obtain ⟨mantissas, exponents⟩ := eq_of_writtenSize (value.symm.trans otherValue)
  rcases x with ⟨negative, mantissa, exponent, _⟩
  rcases y with ⟨otherNegative, otherMantissa, otherExponent, _⟩
  cases signs
  cases mantissas
  cases exponents
  rfl

end BotConfig.Binary64
