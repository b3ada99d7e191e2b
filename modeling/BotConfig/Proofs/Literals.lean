import BotConfig.Proofs.Forms
import BotConfig.Proofs.Unambiguous

/-!
Whole numbers in strict documents.

A whole number that fits 64 bits is read as itself, and its text has the characters that the
document has.  Any other one is read as a binary64 number, if it is read at all, and the text of
such a number has a point or the mark of an exponent.
-/

namespace BotConfig

open Binary64 (AllDigits)

/-- No number has an empty text. -/
theorem Number.isEmpty_text (number : Number) : number.text.isEmpty = false := by
  rw [← Bool.not_eq_true, String.isEmpty_iff]
  intro empty
  cases number with
  | integer value =>
      have nothing := congrArg String.toList empty
      rw [Number.toList_text_integer] at nothing
      exact Nat.toDigits_ne_nil (List.append_eq_nil_iff.mp nothing).2
  | real value =>
      obtain ⟨body, layout, isUnsigned, -⟩ := value.exists_body
      change value.text = "" at empty
      obtain ⟨c, rest, rfl, -⟩ := isUnsigned.starts
      rw [empty] at layout
      exact absurd (List.append_eq_nil_iff.mp layout.symm).2 (List.cons_ne_nil c rest)

namespace Strict

/-! ### Digits -/

theorem digitValue_lt {c : Char} (digit : c.isDigit = true) : digitValue c < 10 := by
  have bounds : 48 ≤ c.toNat ∧ c.toNat ≤ 57 := Char.isDigit_iff_toNat.mp digit
  change c.toNat - 48 < 10
  omega

theorem digitChar_digitValue {c : Char} (digit : c.isDigit = true) :
    (digitValue c).digitChar = c := by
  have bounds : 48 ≤ c.toNat ∧ c.toNat ≤ 57 := Char.isDigit_iff_toNat.mp digit
  have digits : ∀ code < 58, 48 ≤ code → (code - 48).digitChar = Char.ofNat code := by decide
  have same := digits c.toNat (by omega) bounds.1
  rw [Char.ofNat_toNat] at same
  exact same

/-- Digits without a zero in front are the digits of the number that they stand for. -/
theorem toDigits_ofDigitChars {c : Char} (noZero : c ≠ '0') {rest : List Char}
    (digits : AllDigits (c :: rest)) :
    Nat.toDigits 10 (Nat.ofDigitChars 10 (c :: rest) 0) = c :: rest ∧
      0 < Nat.ofDigitChars 10 (c :: rest) 0 := by
  induction rest using List.reverseRecOn with
  | nil =>
      have digit := digits c List.mem_cons_self
      have value : Nat.ofDigitChars 10 [c] 0 = digitValue c := by
        rw [Nat.ofDigitChars_cons, Nat.ofDigitChars_nil, Nat.mul_zero, Nat.zero_add]
        rfl
      rw [value, Nat.toDigits_of_lt_base (digitValue_lt digit), digitChar_digitValue digit]
      refine ⟨rfl, Nat.pos_of_ne_zero fun isZero => noZero ?_⟩
      rw [← digitChar_digitValue digit, isZero]
      rfl
  | append_singleton front last inductionHypothesis =>
      obtain ⟨frontDigits, lastDigit⟩ := List.forall_mem_append.mp
        (show ∀ d ∈ (c :: front) ++ [last], d.isDigit = true from digits)
      have digit := lastDigit last (List.mem_singleton_self last)
      obtain ⟨written, positive⟩ := inductionHypothesis frontDigits
      have value : Nat.ofDigitChars 10 (c :: (front ++ [last])) 0 =
          10 * Nat.ofDigitChars 10 (c :: front) 0 + digitValue last := by
        rw [← List.cons_append, Nat.ofDigitChars_append, Nat.ofDigitChars_cons,
          Nat.ofDigitChars_nil]
        rfl
      rw [value, ← Nat.toDigits_append_toDigits (by decide) positive (digitValue_lt digit), written,
        Nat.toDigits_of_lt_base (digitValue_lt digit), digitChar_digitValue digit]
      exact ⟨rfl, by omega⟩

/-- All digits are appended exactly if the number that they stand for fits 64 bits. -/
theorem appendDigits_eq (digits : List Char) {significand : Nat}
    (fits : Nat.ofDigitChars 10 digits significand < twoTo 64) :
    appendDigits significand digits = (Nat.ofDigitChars 10 digits significand, 0) := by
  induction digits generalizing significand with
  | nil => rfl
  | cons c rest inductionHypothesis =>
      rw [Nat.ofDigitChars_cons] at fits ⊢
      have longerFits := (Decimal.le_ofDigitChars rest _).trans_lt fits
      rw [appendDigits]
      exact (if_pos longerFits).trans (inductionHypothesis fits)

theorem lt_of_appendDigits {digits : List Char} {significand : Nat}
    (fits : significand < twoTo 64) (all : (appendDigits significand digits).2 = 0) :
    Nat.ofDigitChars 10 digits significand < twoTo 64 := by
  induction digits generalizing significand with
  | nil => exact fits
  | cons c rest inductionHypothesis =>
      rw [appendDigits] at all
      split at all
      · rename_i longerFits
        rw [Nat.ofDigitChars_cons]
        exact inductionHypothesis longerFits all
      · cases all

/-! ### Literals -/

/-- A whole number as strict documents write it: digits without a needless zero in front, behind a
minus or nothing. -/
structure IntegerLiteral where
  negative : Bool
  digits : List Char
  allDigits : AllDigits digits
  canonical : digits = ['0'] ∨ ∃ c rest, digits = c :: rest ∧ c ≠ '0'

namespace IntegerLiteral

variable (literal : IntegerLiteral)

/-- The characters of a literal. -/
def characters : List Char := (if literal.negative then ['-'] else []) ++ literal.digits

def text : String := String.ofList literal.characters

/-- The number that the digits stand for. -/
def size : Nat := Nat.ofDigitChars 10 literal.digits 0

/-- The number fits 64 bits, with a sign if it has one. A zero has none. -/
def Fits : Prop :=
  if literal.negative then 0 < literal.size ∧ literal.size ≤ twoTo 63
  else literal.size < twoTo 64

instance : Decidable literal.Fits := by
  unfold Fits
  infer_instance

/-- The number that the reader makes of a literal without quotes, unless that is too large. -/
def number? : Option Number :=
  NumberSpelling.value? ⟨literal.negative, literal.digits, none, none⟩

theorem toDigits_size : Nat.toDigits 10 literal.size = literal.digits := by
  unfold size
  obtain zero | ⟨c, rest, shape, noZero⟩ := literal.canonical
  · rw [zero]
    rfl
  · have digits := literal.allDigits
    rw [shape] at digits ⊢
    exact (toDigits_ofDigitChars noZero digits).1

theorem digits_ne_nil : literal.digits ≠ [] := by
  rw [← literal.toDigits_size]
  exact Nat.toDigits_ne_nil

theorem appendDigits_digits (fits : literal.size < twoTo 64) :
    appendDigits 0 literal.digits = (literal.size, 0) := appendDigits_eq literal.digits fits

/-- What fits is read as a whole number. -/
theorem number?_of_fits (fits : literal.Fits) :
    literal.number? =
      some (.integer (if literal.negative then -(literal.size : Int) else literal.size)) := by
  unfold Fits at fits
  unfold number? NumberSpelling.value?
  cases sign : literal.negative with
  | false =>
      rw [sign, if_neg Bool.false_ne_true] at fits
      simp [literal.appendDigits_digits fits]
  | true =>
      rw [sign, if_pos rfl] at fits
      have wide : twoTo 63 < twoTo 64 := by decide
      simp [literal.appendDigits_digits (fits.2.trans_lt wide), fits]

/-- What does not fit is no whole number. -/
theorem exists_real_of_not_fits (large : ¬ literal.Fits) {number : Number}
    (reads : literal.number? = some number) : ∃ value, number = .real value := by
  have zeroFits : 0 < twoTo 64 := by decide
  unfold number? NumberSpelling.value? at reads
  dsimp only at reads
  split at reads
  · rename_i isWhole
    simp only [Bool.and_eq_true, Bool.not_eq_true', beq_iff_eq] at isWhole
    have fits : literal.Fits := by
      rw [Fits, isWhole.2, if_neg Bool.false_ne_true]
      exact lt_of_appendDigits zeroFits isWhole.1.2
    exact absurd fits large
  · split at reads
    · rename_i notPositive isWhole
      simp only [Bool.and_eq_true, beq_iff_eq, decide_eq_true_eq] at isWhole notPositive
      obtain ⟨⟨⟨present, all⟩, positive⟩, small⟩ := isWhole
      have appended := literal.appendDigits_digits (lt_of_appendDigits zeroFits all)
      rw [appended] at positive small
      have sign : literal.negative = true := by
        cases sign : literal.negative with
        | true => rfl
        | false => exact absurd ⟨⟨present, all⟩, by rw [sign]; rfl⟩ notPositive
      have fits : literal.Fits := by
        rw [Fits, sign, if_pos rfl]
        exact ⟨positive, small⟩
      exact absurd fits large
    · rw [Option.map_eq_some_iff] at reads
      obtain ⟨value, -, rfl⟩ := reads
      exact ⟨_, rfl⟩

/-! ### Texts of numbers -/

theorem isEmpty_text : literal.text.isEmpty = false := by
  rw [← Bool.not_eq_true, String.isEmpty_iff]
  intro empty
  have nothing := congrArg String.toList empty
  rw [text, String.toList_ofList, characters] at nothing
  exact literal.digits_ne_nil (List.append_eq_nil_iff.mp nothing).2

theorem text_integer (fits : literal.Fits) :
    (Number.integer (if literal.negative then -(literal.size : Int) else literal.size)).text =
      literal.text := by
  apply String.toList_injective
  unfold Fits at fits
  rw [Number.toList_text_integer, text, String.toList_ofList, characters, ← literal.toDigits_size]
  cases sign : literal.negative with
  | false =>
      have noSign : ¬ (literal.size : Int) < 0 := by omega
      simp [noSign]
  | true =>
      rw [sign, if_pos rfl] at fits
      simp [fits.1]

/-- The text of a binary64 number is no whole number. -/
theorem text_real_ne (value : Binary64) : (Number.real value).text ≠ literal.text := by
  intro same
  obtain ⟨body, layout, isUnsigned, -⟩ := value.exists_body
  change value.text = literal.text at same
  rw [same, text, String.toList_ofList, Binary64.toList_signText] at layout
  obtain ⟨c, rest, shape⟩ := List.exists_cons_of_ne_nil literal.digits_ne_nil
  have starts : ∃ c rest, literal.digits = c :: rest ∧ c.isDigit = true :=
    ⟨c, rest, shape, literal.allDigits c (shape ▸ List.mem_cons_self)⟩
  obtain ⟨-, rfl⟩ := Binary64.sign_append_inj starts isUnsigned.starts layout
  obtain point | mark := isUnsigned.marked
  · exact absurd (literal.allDigits _ point) (by decide)
  · exact absurd (literal.allDigits _ mark) (by decide)

/-- The characters of a literal are kept exactly if its number fits 64 bits. -/
theorem text_eq_iff_fits :
    literal.number?.map Number.text = some literal.text ↔ literal.Fits := by
  constructor
  · intro kept
    obtain ⟨number, reads, same⟩ := Option.map_eq_some_iff.mp kept
    by_contra large
    obtain ⟨value, rfl⟩ := literal.exists_real_of_not_fits large reads
    exact literal.text_real_ne value same
  · intro fits
    rw [literal.number?_of_fits fits, Option.map_some, literal.text_integer fits]

example : (IntegerLiteral.mk true ['0'] (List.all_eq_true.mp rfl) (.inl rfl)).number?.map
    Number.text = some "-0.0" := by
  decide +kernel

/-! ### Spellings -/

theorem scanNumber_digits_eq (place : Place) :
    ∃ after, scanNumber literal.negative place literal.digits =
      match literal.number? with
      | some number => .ok (number, after, [])
      | none => .error ⟨.numberOutOfRange, after⟩ := by
  obtain zero | ⟨c, rest, shape, noZero⟩ := literal.canonical
  · unfold number?
    rw [zero, scanNumber_zero literal.negative place (show NoDigit [] from trivial)]
    exact ⟨_, rfl⟩
  · have scans := scanNumber_digits literal.negative place noZero (shape ▸ literal.allDigits)
      (show NoDigit [] from trivial)
    rw [List.append_nil, ← shape] at scans
    rw [scans]
    exact ⟨_, rfl⟩

/-- A literal without quotes is read as its number. -/
theorem token_of_bare {spelling : Spelling} (bare : spelling.text = literal.characters) :
    ∃ number, literal.number? = some number ∧ spelling.token = .number number := by
  obtain ⟨first, others, shape, reads⟩ := spelling.spells
  obtain ⟨after, scans⟩ := reads .start [] spelling.token.mayPrecede_nil
  dsimp only at scans
  rw [List.append_nil] at scans
  rw [shape] at bare
  have scanned : ∃ place, scanToken .start first others =
      (scanNumber literal.negative place literal.digits).map
        fun scanned => (.number scanned.1, scanned.2) := by
    unfold characters at bare
    cases sign : literal.negative with
    | true =>
        rw [sign, if_pos rfl] at bare
        obtain ⟨rfl, rfl⟩ := List.cons.inj bare
        exact ⟨_, rfl⟩
    | false =>
        rw [sign, if_neg Bool.false_ne_true, List.nil_append] at bare
        have digit : first.isDigit = true :=
          literal.allDigits first (bare ▸ List.mem_cons_self)
        rw [← bare]
        exact ⟨_, scanToken_digit digit .start others⟩
  obtain ⟨place, scanned⟩ := scanned
  obtain ⟨next, digits⟩ := literal.scanNumber_digits_eq place
  rw [scanned, digits] at scans
  cases reads : literal.number? with
  | none =>
      rw [reads] at scans
      cases scans
  | some number =>
      rw [reads] at scans
      obtain ⟨same, -⟩ := Prod.mk.inj (Except.ok.inj scans)
      exact ⟨number, rfl, same.symm⟩

theorem isPlain_of_mem_characters {c : Char} (membership : c ∈ literal.characters) :
    c ≠ '"' ∧ c ≠ '\\' ∧ ¬ c.toNat < 32 := by
  unfold characters at membership
  obtain sign | digit := List.mem_append.mp membership
  · split at sign
    · rw [List.mem_singleton.mp sign]
      decide
    · cases sign
  · have bounds : 48 ≤ c.toNat ∧ c.toNat ≤ 57 :=
      Char.isDigit_iff_toNat.mp (literal.allDigits c digit)
    refine ⟨?_, ?_, by omega⟩
    · rintro rfl
      exact absurd bounds (by decide)
    · rintro rfl
      exact absurd bounds (by decide)

end IntegerLiteral

/-- Characters that are no marks are read as they stand between quotes. -/
theorem reads_scanText {characters : List Char}
    (plain : ∀ c ∈ characters, c ≠ '"' ∧ c ≠ '\\' ∧ ¬ c.toNat < 32) (done : List Char) :
    Reads (fun place => scanText place done) (fun _ => True) (characters ++ ['"'])
      (String.ofList (done.reverse ++ characters)) := by
  induction characters generalizing done with
  | nil =>
      intro place rest _
      exact ⟨place.after '"', by simp [scanText]⟩
  | cons c others inductionHypothesis =>
      obtain ⟨⟨noQuote, noBackslash, noControl⟩, othersPlain⟩ := List.forall_mem_cons.mp plain
      have below := inductionHypothesis othersPlain (c :: done)
      rw [List.reverse_cons, List.append_assoc] at below
      exact (standsFor_self noQuote noBackslash noControl).reads below

/-- A literal between quotes is read as its characters. -/
theorem IntegerLiteral.token_of_quoted (literal : IntegerLiteral) {spelling : Spelling}
    (quoted : spelling.text = '"' :: (literal.characters ++ ['"'])) :
    spelling.token = .text literal.text := by
  obtain ⟨first, others, shape, reads⟩ := spelling.spells
  obtain ⟨after, scans⟩ := reads .start [] spelling.token.mayPrecede_nil
  obtain ⟨rfl, rfl⟩ := List.cons.inj (shape.symm.trans quoted)
  obtain ⟨_, scanned⟩ := reads_scanText
    (fun c membership => literal.isPlain_of_mem_characters membership) [] (Place.start.after '"') []
      trivial
  dsimp only at scans scanned
  rw [scanToken, scanned] at scans
  obtain ⟨same, -⟩ := Prod.mk.inj (Except.ok.inj scans)
  exact same.symm

end Strict

end BotConfig
