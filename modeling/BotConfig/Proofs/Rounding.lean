import BotConfig.Binary64

/-!
Signs and zeros of rounded results.

Rounding keeps the sign that it is given.  A quotient may round to zero, but a difference of two
different numbers never does, since both are whole counts of the smallest positive number.
-/

namespace BotConfig.Binary64

theorem twoTo_pos (exponent : Nat) : 0 < twoTo exponent := Nat.two_pow_pos exponent

theorem unitsPerOne_pos : 0 < unitsPerOne := by
  unfold unitsPerOne
  exact twoTo_pos _

@[simp]
theorem units_zero (negative : Bool) : (zero negative).units = 0 := by
  cases negative <;> simp [units, zero, magnitude]

theorem magnitude_eq_zero_iff (x : Binary64) : x.magnitude = 0 ↔ x.mantissa = 0 := by
  have powerPositive := twoTo_pos x.exponent
  rw [magnitude, Nat.mul_eq_zero]
  omega

theorem isZero_eq_true_iff (x : Binary64) : x.isZero = true ↔ x.units = 0 := by
  have magnitudeZero := x.magnitude_eq_zero_iff
  unfold isZero units
  rw [beq_iff_eq]
  split <;> omega

theorem isAboveZero_eq_true_iff (x : Binary64) :
    x.isAboveZero = true ↔ x.negative = false ∧ x.isZero = false := by
  have magnitudeZero := x.magnitude_eq_zero_iff
  unfold isAboveZero isZero
  rw [decide_eq_true_eq, beq_eq_false_iff_ne]
  change (zero false).units < x.units ↔ _
  rw [units_zero]
  unfold units
  cases x.negative with
  | false =>
      simp
      omega
  | true => simp

theorem isBelowZero_eq_true_iff (x : Binary64) :
    x.isBelowZero = true ↔ x.negative = true ∧ x.isZero = false := by
  have magnitudeZero := x.magnitude_eq_zero_iff
  unfold isBelowZero isZero
  rw [decide_eq_true_eq, beq_eq_false_iff_ne]
  change x.units < (zero false).units ↔ _
  rw [units_zero]
  unfold units
  cases x.negative with
  | false => simp
  | true =>
      simp
      omega

/-! ### Rounding -/

theorem ofParts?_eq_some_iff (negative : Bool) (mantissa exponent : Nat) (x : Binary64) :
    ofParts? negative mantissa exponent = some x ↔
      x.negative = negative ∧ x.mantissa = mantissa ∧ x.exponent = exponent := by
  rcases x with ⟨sign, digits, power, canonical⟩
  unfold ofParts?
  constructor
  · intro made
    split at made
    · cases made
      exact ⟨rfl, rfl, rfl⟩
    · cases made
  · rintro ⟨rfl, rfl, rfl⟩
    rw [dif_pos canonical]

theorem negative_of_ofRatio? {negative : Bool} {numerator denominator : Nat} {x : Binary64}
    (rounded : ofRatio? negative numerator denominator = some x) : x.negative = negative := by
  unfold ofRatio? at rounded
  dsimp only at rounded
  split at rounded <;> exact ((ofParts?_eq_some_iff _ _ _ _).mp rounded).1

theorem ofRatio?_zero (negative : Bool) (denominator : Nat) :
    ofRatio? negative 0 denominator = some (zero negative) := by
  have rounded : roundHalfEven 0 (denominator * twoTo ((0 / denominator).log2 + 1 - 53)) = 0 := by
    simp [roundHalfEven]
  unfold ofRatio?
  simp only [Nat.zero_mul, rounded]
  rw [if_neg (by decide), ofParts?_eq_some_iff]
  simp [zero]

theorem quotient_le_roundHalfEven (numerator denominator : Nat) :
    numerator / denominator ≤ roundHalfEven numerator denominator := by
  unfold roundHalfEven
  dsimp only
  split
  · exact Nat.le_refl _
  · split <;> omega

/-- A whole count of the smallest positive number does not round to zero. -/
theorem mantissa_ne_zero_of_ofRatio?_units {negative : Bool} {count : Nat} {x : Binary64}
    (rounded : ofRatio? negative count unitsPerOne = some x) (positive : count ≠ 0) :
    x.mantissa ≠ 0 := by
  have unitsPositive := unitsPerOne_pos
  have cancelled : count * unitsPerOne / unitsPerOne = count :=
    Nat.mul_div_cancel count unitsPositive
  unfold ofRatio? at rounded
  dsimp only at rounded
  rw [cancelled] at rounded
  split at rounded
  · rw [((ofParts?_eq_some_iff _ _ _ _).mp rounded).2.1]
    exact Nat.ne_of_gt (twoTo_pos 52)
  · rw [((ofParts?_eq_some_iff _ _ _ _).mp rounded).2.1]
    have shiftLe : 2 ^ (count.log2 + 1 - 53) ≤ count :=
      Nat.le_trans (Nat.pow_le_pow_right (by decide) (by omega)) (Nat.log2_self_le positive)
    have quotient : count * unitsPerOne / (unitsPerOne * twoTo (count.log2 + 1 - 53)) =
        count / 2 ^ (count.log2 + 1 - 53) := by
      rw [Nat.mul_comm count, Nat.mul_div_mul_left _ _ unitsPositive]
      rfl
    have quotientPositive : 0 < count / 2 ^ (count.log2 + 1 - 53) :=
      Nat.div_pos shiftLe (Nat.two_pow_pos _)
    have rounding := quotient_le_roundHalfEven (count * unitsPerOne)
      (unitsPerOne * twoTo (count.log2 + 1 - 53))
    rw [quotient] at rounding
    omega

/-- The rounded difference of two numbers has the sign of the exact one, and is zero only if that
is zero. -/
theorem sub?_eq_some {x y difference : Binary64} (rounded : x.sub? y = some difference) :
    difference.negative = decide (x.units < y.units) ∧
      (difference.isZero = true ↔ x.units = y.units) := by
  unfold sub? at rounded
  dsimp only at rounded
  constructor
  · rw [negative_of_ofRatio? rounded]
    exact decide_eq_decide.mpr (by omega)
  · by_cases same : x.units = y.units
    · rw [show (x.units - y.units).natAbs = 0 by omega, ofRatio?_zero] at rounded
      cases rounded
      simp [same, isZero, zero]
    · have nonzero := mantissa_ne_zero_of_ofRatio?_units rounded (by omega)
      simp [isZero, same, nonzero]

/-- Only different numbers are too far apart for a difference. -/
theorem units_ne_of_sub?_eq_none {x y : Binary64} (overflow : x.sub? y = none) :
    x.units ≠ y.units := by
  intro same
  unfold sub? at overflow
  dsimp only at overflow
  rw [show (x.units - y.units).natAbs = 0 by omega, ofRatio?_zero] at overflow
  cases overflow

/-- Only a number that is not zero has a quotient that is too large. -/
theorem isZero_of_div?_eq_none {x y : Binary64} (overflow : x.div? y = none) :
    x.isZero = false := by
  rw [isZero, beq_eq_false_iff_ne]
  intro mantissaZero
  rw [div?, x.magnitude_eq_zero_iff.mpr mantissaZero, ofRatio?_zero] at overflow
  cases overflow

/-- The rounded quotient of two numbers has the sign of the exact one, and zero divided by a number
is zero. -/
theorem div?_eq_some {x y quotient : Binary64} (rounded : x.div? y = some quotient) :
    quotient.negative = (x.negative != y.negative) ∧
      (x.isZero = true → quotient.isZero = true) := by
  unfold div? at rounded
  refine ⟨negative_of_ofRatio? rounded, ?_⟩
  intro dividendZero
  rw [isZero, beq_iff_eq] at dividendZero
  rw [x.magnitude_eq_zero_iff.mpr dividendZero, ofRatio?_zero] at rounded
  cases rounded
  rfl

end BotConfig.Binary64
