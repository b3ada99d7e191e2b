import Mathlib.Order.Nat
import BotConfig.Decimal

/-!
Amounts are read back as they are written.

An amount that is read, from a text or from a number of a document, keeps within its limits, and
such an amount is read back from its text with all its places.
-/

namespace BotConfig.Decimal

/-- Amounts as they are kept: within their limits, and zero without a sign. -/
structure Sound (amount : Decimal) : Prop where
  coefficient : amount.coefficient < coefficientLimit
  scale : amount.scale ≤ maxScale
  zero : amount.coefficient = 0 → amount.negative = false

/-! ### Amounts that are read -/

theorem sound_ofParts (negative : Bool) {coefficient scale : Nat}
    (coefficientFits : coefficient < coefficientLimit) (scaleFits : scale ≤ maxScale) :
    (ofParts negative coefficient scale).Sound := by
  refine ⟨coefficientFits, scaleFits, ?_⟩
  intro zero
  change coefficient = 0 at zero
  simp [ofParts, zero]

theorem sound_ofInt {value : Int} (fits : value.natAbs < coefficientLimit) :
    (ofInt value).Sound :=
  sound_ofParts _ fits (Nat.zero_le _)

theorem Sound.ofParts_eq {amount : Decimal} (sound : amount.Sound) :
    ofParts amount.negative amount.coefficient amount.scale = amount := by
  rcases amount with ⟨negative, coefficient, scale⟩
  by_cases zero : coefficient = 0
  · have positive : negative = false := sound.zero zero
    simp [ofParts, positive]
  · simp [ofParts, zero]

/-- What has been read of an amount keeps within its limits. -/
structure Progress.Sound (progress : Progress) : Prop where
  coefficient : progress.coefficient < coefficientLimit
  scale : progress.scale ≤ maxScale

theorem Progress.Sound.roundedBy? {progress : Progress} (sound : progress.Sound) {c : Char}
    {amount : Decimal} (rounds : progress.roundedBy? c = some amount) : amount.Sound := by
  unfold Progress.roundedBy? at rounds
  obtain ⟨digit, -, rounds⟩ := Option.bind_eq_some_iff.mp rounds
  split at rounds
  · cases rounds
    exact sound_ofParts _ sound.coefficient sound.scale
  · split at rounds
    · rename_i fits
      cases rounds
      exact sound_ofParts _ fits sound.scale
    · split at rounds
      · cases rounds
      · cases rounds
        have fewer : (progress.coefficient + 5) / 10 < coefficientLimit := by
          have below := sound.coefficient
          simp only [coefficientLimit] at below ⊢
          omega
        exact sound_ofParts _ fewer (Nat.sub_le_of_le_add (Nat.le_add_right_of_le sound.scale))

theorem Progress.Sound.finish? {progress : Progress} (sound : progress.Sound) {text : List Char}
    {amount : Decimal} (reads : progress.finish? text = some amount) : amount.Sound := by
  induction text generalizing progress with
  | nil =>
      rw [Progress.finish?] at reads
      split at reads
      · cases reads
        exact sound_ofParts _ sound.coefficient sound.scale
      · cases reads
  | cons c rest inductionHypothesis =>
      rw [Progress.finish?] at reads
      split at reads
      · exact sound.roundedBy? reads
      · rename_i room
        dsimp only at reads
        split at reads
        · split at reads
          · rename_i fits
            refine inductionHypothesis ⟨fits, ?_⟩ reads
            dsimp only
            split
            · rename_i pointSeen
              have below : ¬ maxScale ≤ progress.scale := fun full => room ⟨pointSeen, full⟩
              omega
            · exact sound.scale
          · split at reads
            · exact sound.roundedBy? reads
            · cases reads
        · split at reads
          · refine inductionHypothesis ?_ reads
            exact ⟨sound.coefficient, sound.scale⟩
          · split at reads
            · exact inductionHypothesis sound reads
            · cases reads

theorem sound_of_ofPlain? {text : List Char} {amount : Decimal}
    (reads : ofPlain? text = some amount) : amount.Sound := by
  have isPositive : 0 < coefficientLimit := by decide
  have start (negative : Bool) : Progress.Sound ⟨negative, 0, 0, false, false⟩ :=
    ⟨isPositive, Nat.zero_le _⟩
  unfold ofPlain? at reads
  split at reads <;> exact (start _).finish? reads

theorem Sound.shiftUp? {base amount : Decimal} (sound : base.Sound) {power : Nat}
    (shifts : base.shiftUp? power = some amount) : amount.Sound := by
  unfold Decimal.shiftUp? at shifts
  split at shifts
  · cases shifts
    exact ⟨sound.coefficient, (Nat.sub_le _ _).trans sound.scale, sound.zero⟩
  · split at shifts
    · cases shifts
    · dsimp only at shifts
      split at shifts
      · rename_i fits
        cases shifts
        refine ⟨fits, Nat.zero_le _, ?_⟩
        intro zero
        have isPositive : 0 < tenTo (power - base.scale) := Nat.pow_pos (by decide)
        exact sound.zero ((Nat.mul_eq_zero.mp zero).resolve_right isPositive.ne')
      · cases shifts

theorem Sound.shiftDown? {base amount : Decimal} (sound : base.Sound) {power : Nat}
    (shifts : base.shiftDown? power = some amount) : amount.Sound := by
  unfold Decimal.shiftDown? at shifts
  split at shifts
  · rename_i fits
    cases shifts
    exact ⟨sound.coefficient, fits, sound.zero⟩
  · cases shifts

theorem sound_of_ofScientific? {text : List Char} {amount : Decimal}
    (reads : ofScientific? text = some amount) : amount.Sound := by
  unfold ofScientific? at reads
  obtain ⟨base, baseReads, reads⟩ := Option.bind_eq_some_iff.mp reads
  have sound := sound_of_ofPlain? baseReads
  split at reads
  · cases reads
  · obtain ⟨power, -, shifts⟩ := Option.bind_eq_some_iff.mp reads
    exact sound.shiftDown? shifts
  · obtain ⟨power, -, shifts⟩ := Option.bind_eq_some_iff.mp reads
    exact sound.shiftUp? shifts

theorem sound_of_ofText? {text : String} {amount : Decimal}
    (reads : ofText? text = some amount) : amount.Sound := by
  unfold ofText? at reads
  cases plain : ofPlain? text.toList with
  | none =>
      rw [plain] at reads
      exact sound_of_ofScientific? reads
  | some read =>
      rw [plain] at reads
      cases reads
      exact sound_of_ofPlain? plain

theorem sound_of_ofBinary64? {number : Binary64} {amount : Decimal}
    (reads : ofBinary64? number = some amount) : amount.Sound :=
  sound_of_ofPlain? reads

/-! ### Amounts that are written -/

theorem le_ofDigitChars (digits : List Char) (start : Nat) :
    start ≤ Nat.ofDigitChars 10 digits start := by
  rw [Nat.ofDigitChars_eq_ofDigitChars_zero]
  exact (Nat.le_mul_of_pos_left start (Nat.pow_pos (by decide))).trans (Nat.le_add_right _ _)

/-- Digits are added to what has been read as long as there is room. -/
theorem Progress.finish?_append {progress : Progress} {digits : List Char}
    (areDigits : ∀ c ∈ digits, c.isDigit = true)
    (fits : Nat.ofDigitChars 10 digits progress.coefficient < coefficientLimit)
    (room : progress.pointSeen = true → progress.scale + digits.length ≤ maxScale)
    (rest : List Char) :
    progress.finish? (digits ++ rest) = Progress.finish?
      ⟨progress.negative, Nat.ofDigitChars 10 digits progress.coefficient,
        if progress.pointSeen then progress.scale + digits.length else progress.scale,
        progress.pointSeen, progress.digitSeen || !digits.isEmpty⟩ rest := by
  induction digits generalizing progress with
  | nil => simp
  | cons c others inductionHypothesis =>
      obtain ⟨isDigit, othersAreDigits⟩ := List.forall_mem_cons.mp areDigits
      rw [Nat.ofDigitChars_cons] at fits
      have longerFits := (le_ofDigitChars others _).trans_lt fits
      have notFull : ¬ (progress.pointSeen = true ∧ maxScale ≤ progress.scale) := by
        rintro ⟨pointSeen, full⟩
        have enough := room pointSeen
        rw [List.length_cons] at enough
        omega
      rw [List.cons_append, Progress.finish?, if_neg notFull, if_pos isDigit]
      dsimp only
      rw [if_pos longerFits, inductionHypothesis othersAreDigits fits, Nat.ofDigitChars_cons]
      · cases progress.pointSeen
        · simp
        · simp [Nat.add_comm, Nat.add_left_comm]
      · intro pointSeen
        have enough := room pointSeen
        rw [List.length_cons] at enough
        dsimp only at pointSeen ⊢
        rw [if_pos pointSeen]
        omega

/-- The digits of a coefficient, with as many zeros before them as its places ask for. -/
def padded (amount : Decimal) : List Char :=
  List.replicate (amount.scale + 1 - (toString amount.coefficient).toList.length) '0' ++
    (toString amount.coefficient).toList

theorem toList_toString (n : Nat) : (toString n).toList = Nat.toDigits 10 n := by
  rw [Nat.toString_eq_ofList_toDigits, String.toList_ofList]

theorem isDigit_of_mem_padded {amount : Decimal} {c : Char} (membership : c ∈ amount.padded) :
    c.isDigit = true := by
  rw [padded, List.mem_append, toList_toString] at membership
  obtain zero | digit := membership
  · rw [List.eq_of_mem_replicate zero]
    rfl
  · exact Nat.isDigit_of_mem_toDigits (by decide) (by decide) digit

theorem ofDigitChars_padded (amount : Decimal) :
    Nat.ofDigitChars 10 amount.padded 0 = amount.coefficient := by
  rw [padded, Nat.ofDigitChars_append, Nat.ofDigitChars_replicate_zero, Nat.mul_zero,
    toList_toString, Nat.ofDigitChars_ten_toDigits]

theorem scale_lt_length_padded (amount : Decimal) : amount.scale < amount.padded.length := by
  rw [padded, List.length_append, List.length_replicate]
  omega

/-- The digits before the point. -/
def wholePart (amount : Decimal) : List Char :=
  amount.padded.take (amount.padded.length - amount.scale)

/-- The digits after the point. -/
def places (amount : Decimal) : List Char :=
  amount.padded.drop (amount.padded.length - amount.scale)

theorem length_places (amount : Decimal) : amount.places.length = amount.scale := by
  have enough := amount.scale_lt_length_padded
  rw [places, List.length_drop]
  omega

theorem wholePart_ne_nil (amount : Decimal) : amount.wholePart ≠ [] := by
  have enough := amount.scale_lt_length_padded
  rw [wholePart, ← List.length_pos_iff, List.length_take]
  omega

theorem toList_text (amount : Decimal) :
    amount.text.toList = (if amount.negative then ['-'] else []) ++
      (amount.wholePart ++ (if amount.scale = 0 then [] else ['.']) ++ amount.places) := by
  unfold text
  dsimp only
  rw [String.toList_append, String.toList_ofList]
  cases amount.negative <;> rfl

/-- The part of a text without a sign is read back. -/
theorem finish?_text {amount : Decimal} (sound : amount.Sound) :
    Progress.finish? ⟨amount.negative, 0, 0, false, false⟩
      (amount.wholePart ++ (if amount.scale = 0 then [] else ['.']) ++ amount.places) =
        some amount := by
  have joined : amount.wholePart ++ amount.places = amount.padded := List.take_append_drop _ _
  have value : Nat.ofDigitChars 10 amount.places (Nat.ofDigitChars 10 amount.wholePart 0) =
      amount.coefficient := by
    rw [← Nat.ofDigitChars_append, joined, ofDigitChars_padded]
  have wholeFits : Nat.ofDigitChars 10 amount.wholePart 0 < coefficientLimit :=
    (le_ofDigitChars amount.places _).trans_lt (value ▸ sound.coefficient)
  have wholeSeen : amount.wholePart.isEmpty = false :=
    List.isEmpty_eq_false_iff.mpr amount.wholePart_ne_nil
  have wholeDigits : ∀ c ∈ amount.wholePart, c.isDigit = true :=
    fun c membership => isDigit_of_mem_padded (List.mem_of_mem_take membership)
  have placeDigits : ∀ c ∈ amount.places, c.isDigit = true :=
    fun c membership => isDigit_of_mem_padded (List.mem_of_mem_drop membership)
  rw [List.append_assoc, Progress.finish?_append wholeDigits wholeFits (by simp)]
  simp only [wholeSeen, Bool.not_false, Bool.or_true, Bool.false_eq_true, if_false]
  by_cases noPlaces : amount.scale = 0
  · have empty : amount.places = [] :=
      List.length_eq_zero_iff.mp (amount.length_places.trans noPlaces)
    rw [empty, Nat.ofDigitChars_nil] at value
    rw [if_pos noPlaces, empty, List.append_nil, Progress.finish?, if_pos rfl, value, ← noPlaces,
      sound.ofParts_eq]
  · rw [if_neg noPlaces, List.singleton_append, Progress.finish?, if_neg (by simp),
      if_neg (by decide), if_pos (by simp)]
    rw [← List.append_nil amount.places, Progress.finish?_append placeDigits]
    · simp only [value, length_places, if_true, Nat.zero_add, Bool.true_or]
      rw [Progress.finish?, if_pos rfl, sound.ofParts_eq]
    · exact value ▸ sound.coefficient
    · intro _
      simpa [length_places] using sound.scale

/-- A text that starts with a digit has no sign. -/
theorem ofPlain?_of_isDigit {c : Char} (isDigit : c.isDigit = true) (rest : List Char) :
    ofPlain? (c :: rest) = Progress.finish? ⟨false, 0, 0, false, false⟩ (c :: rest) := by
  unfold ofPlain?
  split
  · rename_i same
    cases same
    exact absurd isDigit (by decide)
  · rename_i same
    cases same
    exact absurd isDigit (by decide)
  · rfl

/-- An amount is read back from its text. -/
theorem ofText?_text {amount : Decimal} (sound : amount.Sound) :
    ofText? amount.text = some amount := by
  have finishes := finish?_text sound
  have plain : ofPlain? amount.text.toList = some amount := by
    rw [toList_text]
    cases sign : amount.negative with
    | true =>
        rw [sign] at finishes
        exact finishes
    | false =>
        rw [sign] at finishes
        obtain ⟨c, digits, whole⟩ := List.exists_cons_of_ne_nil amount.wholePart_ne_nil
        have isDigit : c.isDigit = true :=
          isDigit_of_mem_padded (List.mem_of_mem_take (whole ▸ List.mem_cons_self))
        rw [whole] at finishes ⊢
        exact (ofPlain?_of_isDigit isDigit _).trans finishes
  rw [ofText?, plain]
  rfl

/-- The text of an amount has digits, and before them at most a sign. -/
theorem exists_isDigit_text (amount : Decimal) : ∃ c ∈ amount.text.toList, c.isDigit = true := by
  obtain ⟨c, digits, whole⟩ := List.exists_cons_of_ne_nil amount.wholePart_ne_nil
  refine ⟨c, ?_, isDigit_of_mem_padded (List.mem_of_mem_take (whole ▸ List.mem_cons_self))⟩
  rw [toList_text, whole]
  simp

end BotConfig.Decimal
