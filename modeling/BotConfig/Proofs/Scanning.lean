import Mathlib.Data.List.TakeWhile
import BotConfig.Proofs.Blanking
import BotConfig.Strict.Reader

/-!
What the scanners of strict documents take from a text.

A scanner that succeeds takes a text from the start of its input, and reads that text in the same
way wherever it stands.  Only a number may go on in what follows it.
-/

namespace BotConfig.Strict

open Comment

/-- A scanner reads a text as a value, wherever it stands, in front of any rest of a kind. -/
def Reads {α : Type} (scan : Place → List Char → Scanned α) (before : List Char → Prop)
    (text : List Char) (value : α) : Prop :=
  ∀ place rest, before rest → ∃ after, scan place (text ++ rest) = .ok (value, after, rest)

/-- A rest that a number does not go on in. -/
def EndsNumber : List Char → Prop
  | [] => True
  | c :: _ => c.isDigit = false ∧ c ≠ '.' ∧ c ≠ 'e' ∧ c ≠ 'E'

/-! ### Texts between quotes -/

theorem isBody_of_hexValue? {c : Char} {value : Nat} (digit : hexValue? c = some value) :
    c ≠ '"' ∧ c ≠ '\\' := by
  constructor
  · rintro rfl
    cases digit
  · rintro rfl
    cases digit

theorem exists_hexValue? {a b c d : Char} {code : Nat} (digits : hexValue4? a b c d = some code) :
    (a ≠ '"' ∧ a ≠ '\\') ∧ (b ≠ '"' ∧ b ≠ '\\') ∧ (c ≠ '"' ∧ c ≠ '\\') ∧ (d ≠ '"' ∧ d ≠ '\\') := by
  simp only [hexValue4?, Option.bind_eq_bind, Option.bind_eq_some_iff] at digits
  obtain ⟨_, first, _, second, _, third, _, fourth, _⟩ := digits
  exact ⟨isBody_of_hexValue? first, isBody_of_hexValue? second, isBody_of_hexValue? third,
    isBody_of_hexValue? fourth⟩

/-- A piece of a quoted text stands for a character, wherever it stands. -/
def StandsFor (piece : List Char) (c : Char) : Prop :=
  ∀ place done rest, ∃ after, scanText place done (piece ++ rest) = scanText after (c :: done) rest

theorem standsFor_pair {a b c d e f g h : Char} {code second : Nat}
    (digits : hexValue4? a b c d = some code) (notSecond : ¬ (0xDC00 ≤ code ∧ code ≤ 0xDFFF))
    (isFirst : 0xD800 ≤ code ∧ code ≤ 0xDBFF) (moreDigits : hexValue4? e f g h = some second)
    (isSecond : 0xDC00 ≤ second ∧ second ≤ 0xDFFF) :
    StandsFor ['\\', 'u', a, b, c, d, '\\', 'u', e, f, g, h]
      (Char.ofNat ((code - 0xD800) * 1024 + (second - 0xDC00) + 0x10000)) := by
  intro place done rest
  simp only [List.cons_append, List.nil_append, scanText, digits, notSecond, isFirst, moreDigits,
    isSecond, and_self, if_true, if_false]
  exact ⟨_, rfl⟩

theorem standsFor_code {a b c d : Char} {code : Nat} (digits : hexValue4? a b c d = some code)
    (notSecond : ¬ (0xDC00 ≤ code ∧ code ≤ 0xDFFF))
    (notFirst : ¬ (0xD800 ≤ code ∧ code ≤ 0xDBFF)) :
    StandsFor ['\\', 'u', a, b, c, d] (Char.ofNat code) := by
  intro place done rest
  simp only [List.cons_append, List.nil_append, scanText, digits, notSecond, notFirst, if_false]
  exact ⟨_, rfl⟩

theorem standsFor_escape {c plain : Char} (noCode : c ≠ 'u')
    (escapes : simpleEscape? c = some plain) : StandsFor ['\\', c] plain := by
  intro place done rest
  refine ⟨(place.after '\\').after c, ?_⟩
  simp only [List.cons_append, List.nil_append]
  rw [scanText, escapes]
  exact noCode

theorem standsFor_self {c : Char} (noQuote : c ≠ '"') (noBackslash : c ≠ '\\')
    (noControl : ¬ c.toNat < 32) : StandsFor [c] c := by
  intro place done rest
  refine ⟨place.after c, ?_⟩
  simp only [List.cons_append, List.nil_append]
  rw [scanText, if_neg noControl]
  · exact noQuote
  · intro _ isBackslash
    exact absurd isBackslash noBackslash
  · intro isBackslash
    exact absurd isBackslash noBackslash
  · intro _ _ isBackslash
    exact absurd isBackslash noBackslash

theorem StandsFor.reads {piece body : List Char} {c : Char} {done : List Char} {content : String}
    (standsFor : StandsFor piece c)
    (reads : Reads (fun place => scanText place (c :: done)) (fun _ => True) body content) :
    Reads (fun place => scanText place done) (fun _ => True) (piece ++ body) content := by
  intro place rest _
  obtain ⟨middle, step⟩ := standsFor place done (body ++ rest)
  obtain ⟨after, scans⟩ := reads middle rest trivial
  refine ⟨after, ?_⟩
  dsimp only
  rw [List.append_assoc, step]
  exact scans

theorem exists_body_of_scanText {place : Place} {done input : List Char} {content : String}
    {after : Place} {rest : List Char}
    (scans : scanText place done input = .ok (content, after, rest)) :
    ∃ body, input = body ++ rest ∧ LiteralBody body ∧
      Reads (fun place => scanText place done) (fun _ => True) body content := by
  fun_induction scanText place done input with
  | case2 place done rest =>
      cases scans
      refine ⟨['"'], rfl, .close, ?_⟩
      intro place rest _
      exact ⟨place.after '"', by simp [scanText]⟩
  -- Two escapes in a row may stand for one character.
  | case6 place done _ a b c d code digits _ notSecond isFirst _ e f g h rest second moreDigits _
      isSecond whole inductionHypothesis =>
      obtain ⟨body, rfl, isBody, reads⟩ := inductionHypothesis scans
      obtain ⟨⟨a1, a2⟩, ⟨b1, b2⟩, ⟨c1, c2⟩, d1, d2⟩ := exists_hexValue? digits
      obtain ⟨⟨e1, e2⟩, ⟨f1, f2⟩, ⟨g1, g2⟩, h1, h2⟩ := exists_hexValue? moreDigits
      refine ⟨_, rfl, ?_,
        (standsFor_pair digits notSecond isFirst moreDigits isSecond).reads reads⟩
      exact .escape 'u' (.plain a1 a2 (.plain b1 b2 (.plain c1 c2 (.plain d1 d2
        (.escape 'u' (.plain e1 e2 (.plain f1 f2 (.plain g1 g2 (.plain h1 h2 isBody)))))))))
  | case10 place done _ a b c d rest code digits _ notSecond notFirst inductionHypothesis =>
      obtain ⟨body, rfl, isBody, reads⟩ := inductionHypothesis scans
      obtain ⟨⟨a1, a2⟩, ⟨b1, b2⟩, ⟨c1, c2⟩, d1, d2⟩ := exists_hexValue? digits
      refine ⟨_, rfl, ?_, (standsFor_code digits notSecond notFirst).reads reads⟩
      exact .escape 'u' (.plain a1 a2 (.plain b1 b2 (.plain c1 c2 (.plain d1 d2 isBody))))
  | case13 place done c rest noCode plain escapes inductionHypothesis =>
      obtain ⟨body, rfl, isBody, reads⟩ := inductionHypothesis scans
      exact ⟨_, rfl, .escape c isBody, (standsFor_escape noCode escapes).reads reads⟩
  | case16 place done c rest noQuote _ _ noEscape noControl inductionHypothesis =>
      obtain ⟨body, rfl, isBody, reads⟩ := inductionHypothesis scans
      have noBackslash : c ≠ '\\' := by
        intro isBackslash
        cases isBody <;> exact noEscape _ _ isBackslash rfl
      exact ⟨_, rfl, .plain noQuote noBackslash isBody,
        (standsFor_self noQuote noBackslash noControl).reads reads⟩
  | _ => cases scans

/-! ### Numbers -/

def IsNumeric (c : Char) : Prop :=
  c.isDigit = true ∨ c = '.' ∨ c = 'e' ∨ c = 'E' ∨ c = '+' ∨ c = '-'

theorem isBare_of_isNumeric {c : Char} (numeric : IsNumeric c) : IsBare c := by
  constructor
  · rintro rfl
    simp [IsNumeric, Char.isDigit] at numeric
  · rintro rfl
    simp [IsNumeric, Char.isDigit] at numeric

/-- A text that a run of digits does not go on in. -/
def NoDigit : List Char → Prop
  | [] => True
  | c :: _ => c.isDigit = false

theorem EndsNumber.noDigit {rest : List Char} (ends : EndsNumber rest) : NoDigit rest := by
  cases rest with
  | nil => trivial
  | cons c rest => exact ends.1

theorem noDigit_dropWhile (text : List Char) : NoDigit (text.dropWhile Char.isDigit) := by
  induction text with
  | nil => trivial
  | cons c rest inductionHypothesis =>
      cases digit : c.isDigit with
      | true => simpa [digit] using inductionHypothesis
      | false => simp [digit, NoDigit]

/-- What follows a text matters only if the text is empty. -/
theorem NoDigit.append {text rest other : List Char} (noDigit : NoDigit (text ++ rest))
    (ends : EndsNumber other) : NoDigit (text ++ other) := by
  cases text with
  | nil => exact ends.noDigit
  | cons c text => exact noDigit

theorem span_digits {digits rest : List Char} (all : ∀ c ∈ digits, c.isDigit = true)
    (ends : NoDigit rest) :
    (digits ++ rest).takeWhile Char.isDigit = digits ∧
      (digits ++ rest).dropWhile Char.isDigit = rest := by
  induction digits with
  | nil =>
      cases rest with
      | nil => exact ⟨rfl, rfl⟩
      | cons c rest =>
          have notDigit : c.isDigit = false := ends
          simp [notDigit]
  | cons c others inductionHypothesis =>
      obtain ⟨first, othersAll⟩ := List.forall_mem_cons.mp all
      simpa [first] using inductionHypothesis othersAll

/-- A text that starts with a digit is a run of digits in front of the rest. -/
theorem exists_digits {c : Char} (digit : c.isDigit = true) (others : List Char) :
    ∃ more rest, c :: others = c :: more ++ rest ∧ (∀ d ∈ c :: more, d.isDigit = true) ∧
      NoDigit rest := by
  refine ⟨others.takeWhile Char.isDigit, others.dropWhile Char.isDigit, ?_, ?_,
    noDigit_dropWhile others⟩
  · rw [List.cons_append, List.takeWhile_append_dropWhile]
  · exact List.forall_mem_cons.mpr ⟨digit, fun _ => List.mem_takeWhile_imp⟩

theorem closeNumber_eq_ok {spelling : NumberSpelling} {exponentPlace place after : Place}
    {input rest : List Char} {number : Number}
    (closes : closeNumber spelling exponentPlace place input = .ok (number, after, rest)) :
    input = rest ∧ ∀ exponentPlace' place' rest',
      closeNumber spelling exponentPlace' place' rest' = .ok (number, place', rest') := by
  unfold closeNumber at closes ⊢
  dsimp only at closes ⊢
  split at closes
  · split at closes
    · rename_i zero
      cases closes
      exact ⟨rfl, fun _ _ _ => if_pos zero⟩
    · cases closes
  · cases closes
    exact ⟨rfl, fun _ _ _ => rfl⟩
  · rename_i long
    split at closes
    · rename_i value
      cases closes
      exact ⟨rfl, fun _ _ _ => rfl⟩
    · cases closes

/-- A scanner of a part of a number takes a numeric text, and reads that text in the same way where
the number cannot go on behind it. -/
def TakesNumeric (scan : Place → List Char → Scanned Number) : Prop :=
  ∀ {place after : Place} {input rest : List Char} {number : Number},
    scan place input = .ok (number, after, rest) →
      ∃ text, input = text ++ rest ∧ (∀ c ∈ text, IsNumeric c) ∧
        Reads scan EndsNumber text number

/-- The digits of an exponent, behind its sign. -/
def scanExponentDigits (spelling : NumberSpelling) (negative : Bool) (place : Place)
    (text : List Char) : Scanned Number :=
  match text with
  | [] => .error ⟨.endInValue, place⟩
  | c :: _ =>
      if c.isDigit then
        let digits := text.takeWhile Char.isDigit
        closeNumber { spelling with exponent := some (negative, digits) } place
          (place.forward digits.length) (text.dropWhile Char.isDigit)
      else .error ⟨.invalidNumber, place.afterByte c⟩

theorem scanExponentDigits_append (spelling : NumberSpelling) (negative : Bool) (place : Place)
    {c : Char} {more rest : List Char} (digits : ∀ d ∈ c :: more, d.isDigit = true)
    (ends : NoDigit rest) :
    scanExponentDigits spelling negative place (c :: more ++ rest) =
      closeNumber { spelling with exponent := some (negative, c :: more) } place
        (place.forward (c :: more).length) rest := by
  obtain ⟨taken, left⟩ := span_digits digits ends
  rw [List.cons_append] at taken left ⊢
  unfold scanExponentDigits
  simp only [digits c List.mem_cons_self, if_true, taken, left]

theorem takesNumeric_scanExponentDigits (spelling : NumberSpelling) (negative : Bool) :
    TakesNumeric (scanExponentDigits spelling negative) := by
  intro place after input rest number scans
  cases input with
  | nil => cases scans
  | cons c others =>
      cases digit : c.isDigit with
      | false => simp [scanExponentDigits, digit] at scans
      | true =>
          obtain ⟨more, left, shape, digits, ends⟩ := exists_digits digit others
          rw [shape, scanExponentDigits_append spelling negative place digits ends] at scans
          obtain ⟨rfl, closes⟩ := closeNumber_eq_ok scans
          refine ⟨c :: more, shape, fun d membership => .inl (digits d membership), ?_⟩
          intro place' rest' ends'
          rw [scanExponentDigits_append spelling negative place' digits ends'.noDigit]
          exact ⟨_, closes _ _ _⟩

theorem scanExponent_unsigned (spelling : NumberSpelling) (place : Place) {c : Char}
    (noPlus : c ≠ '+') (noMinus : c ≠ '-') (rest : List Char) :
    scanExponent spelling place (c :: rest) =
      scanExponentDigits spelling false place (c :: rest) := by
  simp [scanExponent, scanExponentDigits, noPlus, noMinus]

theorem takesNumeric_scanExponent (spelling : NumberSpelling) :
    TakesNumeric (scanExponent spelling) := by
  intro place after input rest number scans
  cases input with
  | nil => cases scans
  | cons c others =>
      by_cases plus : c = '+'
      · subst plus
        obtain ⟨text, rfl, numeric, reads⟩ := takesNumeric_scanExponentDigits _ _ scans
        refine ⟨'+' :: text, rfl, List.forall_mem_cons.mpr ⟨by simp [IsNumeric], numeric⟩, ?_⟩
        exact fun place' rest' ends => reads _ rest' ends
      by_cases minus : c = '-'
      · subst minus
        obtain ⟨text, rfl, numeric, reads⟩ := takesNumeric_scanExponentDigits _ _ scans
        refine ⟨'-' :: text, rfl, List.forall_mem_cons.mpr ⟨by simp [IsNumeric], numeric⟩, ?_⟩
        exact fun place' rest' ends => reads _ rest' ends
      rw [scanExponent_unsigned spelling place plus minus] at scans
      obtain ⟨text, shape, numeric, reads⟩ := takesNumeric_scanExponentDigits _ _ scans
      cases text with
      | nil =>
          obtain ⟨_, again⟩ := reads place [] trivial
          cases again
      | cons d more =>
          obtain ⟨rfl, -⟩ := List.cons.inj shape
          refine ⟨c :: more, shape, numeric, ?_⟩
          intro place' rest' ends
          rw [List.cons_append, scanExponent_unsigned spelling place' plus minus]
          exact reads place' rest' ends

/-- Nothing more is read where a number is over. -/
theorem reads_scanAfterFraction_nil {spelling : NumberSpelling} {number : Number}
    (closes : ∀ exponentPlace place rest,
      closeNumber spelling exponentPlace place rest = .ok (number, place, rest)) :
    Reads (scanAfterFraction spelling) EndsNumber [] number := by
  intro place rest ends
  refine ⟨place, ?_⟩
  cases rest with
  | nil => exact closes place place []
  | cons c rest =>
      obtain ⟨_, _, noE, noCapital⟩ := ends
      simp [scanAfterFraction, noE, noCapital, closes]

theorem takesNumeric_scanAfterFraction (spelling : NumberSpelling) :
    TakesNumeric (scanAfterFraction spelling) := by
  intro place after input rest number scans
  unfold scanAfterFraction at scans
  split at scans
  · rename_i c others
    split at scans
    · rename_i isExponent
      obtain ⟨text, rfl, numeric, reads⟩ := takesNumeric_scanExponent spelling scans
      refine ⟨c :: text, rfl, ?_, ?_⟩
      · refine List.forall_mem_cons.mpr ⟨?_, numeric⟩
        rcases isExponent with rfl | rfl <;> simp [IsNumeric]
      · intro place' rest' ends
        obtain ⟨after', again⟩ := reads (place'.after c) rest' ends
        exact ⟨after', by simpa [scanAfterFraction, isExponent] using again⟩
    · obtain ⟨rfl, closes⟩ := closeNumber_eq_ok scans
      exact ⟨[], rfl, by simp, reads_scanAfterFraction_nil closes⟩
  · obtain ⟨rfl, closes⟩ := closeNumber_eq_ok scans
    exact ⟨[], rfl, by simp, reads_scanAfterFraction_nil closes⟩

theorem scanAfterWhole_point (spelling : NumberSpelling) (place : Place) {c : Char}
    {more rest : List Char} (digits : ∀ d ∈ c :: more, d.isDigit = true) (ends : NoDigit rest) :
    scanAfterWhole spelling place ('.' :: (c :: more ++ rest)) =
      scanAfterFraction { spelling with fraction := some (c :: more) }
        ((place.after '.').forward (c :: more).length) rest := by
  obtain ⟨taken, left⟩ := span_digits digits ends
  unfold scanAfterWhole
  simp only [taken, left, List.isEmpty_cons, Bool.false_eq_true, if_false]

theorem scanAfterWhole_of_ne (spelling : NumberSpelling) (place : Place) {text : List Char}
    (noPoint : ∀ rest, text ≠ '.' :: rest) :
    scanAfterWhole spelling place text = scanAfterFraction spelling place text := by
  rw [scanAfterWhole]
  exact noPoint

theorem takesNumeric_scanAfterWhole (spelling : NumberSpelling) :
    TakesNumeric (scanAfterWhole spelling) := by
  intro place after input rest number scans
  by_cases point : ∃ others, input = '.' :: others
  · obtain ⟨others, rfl⟩ := point
    cases others with
    | nil => cases scans
    | cons c others =>
        cases digit : c.isDigit with
        | false => simp [scanAfterWhole, digit] at scans
        | true =>
            obtain ⟨more, left, shape, digits, ends⟩ := exists_digits digit others
            rw [shape, scanAfterWhole_point spelling place digits ends] at scans
            obtain ⟨text, rfl, numeric, reads⟩ := takesNumeric_scanAfterFraction _ scans
            refine ⟨'.' :: (c :: more ++ text), by rw [shape]; simp, ?_, ?_⟩
            · refine List.forall_mem_cons.mpr ⟨by simp [IsNumeric], ?_⟩
              exact List.forall_mem_append.mpr
                ⟨fun d membership => .inl (digits d membership), numeric⟩
            · intro place' rest' ends'
              rw [List.cons_append, List.append_assoc,
                scanAfterWhole_point spelling place' digits (ends.append ends')]
              exact reads _ rest' ends'
  · have noPoint : ∀ others, input ≠ '.' :: others := fun others same => point ⟨others, same⟩
    rw [scanAfterWhole_of_ne spelling place noPoint] at scans
    obtain ⟨text, rfl, numeric, reads⟩ := takesNumeric_scanAfterFraction _ scans
    refine ⟨text, rfl, numeric, ?_⟩
    intro place' rest' ends
    rw [scanAfterWhole_of_ne]
    · exact reads place' rest' ends
    · intro others same
      cases text with
      | nil =>
          rw [List.nil_append] at same
          rw [same] at ends
          exact ends.2.1 rfl
      | cons c more =>
          obtain ⟨rfl, -⟩ := List.cons.inj same
          exact noPoint _ rfl

theorem scanNumber_zero (negative : Bool) (place : Place) {rest : List Char}
    (ends : NoDigit rest) :
    scanNumber negative place ('0' :: rest) =
      scanAfterWhole ⟨negative, ['0'], none, none⟩ (place.after '0') rest := by
  cases rest with
  | nil => rfl
  | cons c rest =>
      have notDigit : c.isDigit = false := ends
      simp [scanNumber, notDigit]

theorem scanNumber_digits (negative : Bool) (place : Place) {c : Char} (notZero : c ≠ '0')
    {more rest : List Char} (digits : ∀ d ∈ c :: more, d.isDigit = true) (ends : NoDigit rest) :
    scanNumber negative place (c :: more ++ rest) =
      scanAfterWhole ⟨negative, c :: more, none, none⟩ (place.forward (c :: more).length)
        rest := by
  obtain ⟨taken, left⟩ := span_digits digits ends
  rw [List.cons_append] at taken left ⊢
  rw [scanNumber]
  · simp only [digits c List.mem_cons_self, if_true, taken, left]
  · exact notZero

/-- The whole of a number is followed by its fraction or its exponent, so each scanner is taken
apart with the next one. -/
theorem takesNumeric_scanNumber (negative : Bool) : TakesNumeric (scanNumber negative) := by
  intro place after input rest number scans
  cases input with
  | nil => cases scans
  | cons c others =>
      by_cases zero : c = '0'
      · subst zero
        have ends : NoDigit others := by
          cases others with
          | nil => trivial
          | cons d others =>
              cases digit : d.isDigit with
              | false => exact digit
              | true => simp [scanNumber, digit] at scans
        rw [scanNumber_zero negative place ends] at scans
        obtain ⟨text, rfl, numeric, reads⟩ := takesNumeric_scanAfterWhole _ scans
        refine ⟨'0' :: text, rfl,
          List.forall_mem_cons.mpr ⟨by simp [IsNumeric, Char.isDigit], numeric⟩, ?_⟩
        intro place' rest' ends'
        rw [List.cons_append, scanNumber_zero negative place' (ends.append ends')]
        exact reads _ rest' ends'
      · cases digit : c.isDigit with
        | false => simp [scanNumber, digit] at scans
        | true =>
            obtain ⟨more, left, shape, digits, ends⟩ := exists_digits digit others
            rw [shape, scanNumber_digits negative place zero digits ends] at scans
            obtain ⟨text, rfl, numeric, reads⟩ := takesNumeric_scanAfterWhole _ scans
            refine ⟨c :: more ++ text, by rw [shape, List.append_assoc], ?_, ?_⟩
            · exact List.forall_mem_append.mpr
                ⟨fun d membership => .inl (digits d membership), numeric⟩
            · intro place' rest' ends'
              rw [List.append_assoc,
                scanNumber_digits negative place' zero digits (ends.append ends')]
              exact reads _ rest' ends'

/-! ### Words -/

theorem scanWord_eq_ok {place after : Place} {letters input rest : List Char} {result : Unit}
    (scans : scanWord place letters input = .ok (result, after, rest)) :
    input = letters ++ rest := by
  induction letters generalizing place input with
  | nil =>
      cases scans
      rfl
  | cons letter more inductionHypothesis =>
      cases input with
      | nil => cases scans
      | cons c others =>
          rw [scanWord] at scans
          split at scans
          · rename_i same
            rw [same, inductionHypothesis scans, List.cons_append]
          · cases scans

theorem reads_scanWord (letters : List Char) :
    Reads (fun place => scanWord place letters) (fun _ => True) letters () := by
  intro place rest _
  induction letters generalizing place with
  | nil => exact ⟨place, rfl⟩
  | cons letter more inductionHypothesis =>
      obtain ⟨after, again⟩ := inductionHypothesis (place.after letter)
      exact ⟨after, by simpa [scanWord] using again⟩

end BotConfig.Strict
