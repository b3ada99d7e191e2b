import BotConfig.Proofs.Shortest
import BotConfig.Value.Printer

/-!
Different values have different texts.

The text of a value ends where it stands in front of a comma, a closing bracket or nothing, so what
is written on one line is taken apart in one way.
-/

namespace BotConfig

open Strict (IsNumeric)

/-! ### Amounts -/

namespace Decimal

theorem point_ne_of_mem_wholePart {amount : Decimal} {c : Char}
    (membership : c ∈ amount.wholePart) : (c != '.') = true := by
  rw [bne_iff_ne]
  rintro rfl
  exact absurd (isDigit_of_mem_padded (List.mem_of_mem_take membership)) (by decide)

/-- What is written of an amount without its sign. -/
def unsignedText (amount : Decimal) : List Char :=
  amount.wholePart ++ if amount.scale = 0 then [] else '.' :: amount.places

theorem toList_text_eq (amount : Decimal) :
    amount.text.toList = (if amount.negative then ['-'] else []) ++ amount.unsignedText := by
  rw [toList_text, unsignedText, List.append_assoc]
  congr 2
  by_cases noPlaces : amount.scale = 0
  · have empty : amount.places = [] :=
      List.length_eq_zero_iff.mp (amount.length_places.trans noPlaces)
    rw [if_pos noPlaces, if_pos noPlaces, empty, List.append_nil]
  · rw [if_neg noPlaces, if_neg noPlaces, List.singleton_append]

theorem parts_unsignedText (amount : Decimal) :
    amount.unsignedText.takeWhile (· != '.') = amount.wholePart ∧
      (amount.unsignedText.dropWhile (· != '.')).tail = amount.places := by
  have wholeKept : ∀ c ∈ amount.wholePart, (c != '.') = true :=
    fun c => point_ne_of_mem_wholePart
  unfold unsignedText
  rw [List.takeWhile_append_of_pos wholeKept, List.dropWhile_append_of_pos wholeKept]
  by_cases noPlaces : amount.scale = 0
  · have empty : amount.places = [] :=
      List.length_eq_zero_iff.mp (amount.length_places.trans noPlaces)
    rw [if_pos noPlaces, empty, List.takeWhile_nil, List.append_nil]
    exact ⟨rfl, rfl⟩
  · rw [if_neg noPlaces, List.takeWhile_cons_of_neg (by simp), List.dropWhile_cons_of_neg (by simp),
      List.append_nil]
    exact ⟨rfl, rfl⟩

theorem exists_unsignedText_eq (amount : Decimal) :
    ∃ c rest, amount.unsignedText = c :: rest ∧ c.isDigit = true := by
  obtain ⟨c, digits, whole⟩ := List.exists_cons_of_ne_nil amount.wholePart_ne_nil
  refine ⟨c, _, by rw [unsignedText, whole, List.cons_append], ?_⟩
  exact isDigit_of_mem_padded (List.mem_of_mem_take (whole ▸ List.mem_cons_self))

theorem eq_of_unsignedText {first second : Decimal}
    (same : first.unsignedText = second.unsignedText) :
    first.coefficient = second.coefficient ∧ first.scale = second.scale := by
  obtain ⟨whole, places⟩ := first.parts_unsignedText
  rw [same, second.parts_unsignedText.1] at whole
  rw [same, second.parts_unsignedText.2] at places
  have padded (amount : Decimal) : amount.wholePart ++ amount.places = amount.padded :=
    List.take_append_drop _ _
  constructor
  · rw [← ofDigitChars_padded, ← ofDigitChars_padded, ← padded, ← padded, whole, places]
  · rw [← length_places, ← length_places, places]

theorem text_injective : Function.Injective text := by
  intro first second same
  have texts := congrArg String.toList same
  rw [toList_text_eq, toList_text_eq] at texts
  obtain ⟨signs, bodies⟩ := Binary64.sign_append_inj first.exists_unsignedText_eq
    second.exists_unsignedText_eq texts
  obtain ⟨coefficients, scales⟩ := eq_of_unsignedText bodies
  rcases first with ⟨negative, coefficient, scale⟩
  rcases second with ⟨otherNegative, otherCoefficient, otherScale⟩
  cases signs
  cases coefficients
  cases scales
  rfl

end Decimal

/-! ### Numbers -/

namespace Number

theorem toList_text_integer (value : Int) : (integer value).text.toList =
    (if decide (value < 0) then ['-'] else []) ++ Nat.toDigits 10 value.natAbs := by
  cases value with
  | ofNat n =>
      change (toString n).toList = _
      rw [Decimal.toList_toString]
      rfl
  | negSucc n =>
      change ("-" ++ toString (n + 1)).toList = _
      rw [String.toList_append, Decimal.toList_toString,
        decide_eq_true (Int.negSucc_lt_zero n), if_pos rfl]
      rfl

theorem toDigits_starts (n : Nat) :
    ∃ c rest, Nat.toDigits 10 n = c :: rest ∧ c.isDigit = true := by
  have starts := (Binary64.allDigits_toDigits n).starts Nat.toDigits_ne_nil []
  rwa [List.append_nil] at starts

theorem integer_text_ne (value : Int) (number : Binary64) :
    (integer value).text ≠ (real number).text := by
  intro same
  obtain ⟨body, layout, isUnsigned, -⟩ := number.exists_body
  have texts : (integer value).text.toList = number.text.toList := congrArg String.toList same
  rw [toList_text_integer, layout, Binary64.toList_signText] at texts
  obtain ⟨-, rfl⟩ := Binary64.sign_append_inj (toDigits_starts _) isUnsigned.starts texts
  have digits := Binary64.allDigits_toDigits value.natAbs
  rcases isUnsigned.marked with point | mark
  · exact absurd (digits _ point) (by decide)
  · exact absurd (digits _ mark) (by decide)

theorem text_injective : Function.Injective text := by
  intro first second same
  cases first with
  | integer value =>
      cases second with
      | integer other =>
          have texts := congrArg String.toList same
          rw [toList_text_integer, toList_text_integer] at texts
          obtain ⟨signs, digits⟩ :=
            Binary64.sign_append_inj (toDigits_starts _) (toDigits_starts _) texts
          have sizes := congrArg (Nat.ofDigitChars 10 · 0) digits
          simp only [Nat.ofDigitChars_ten_toDigits, decide_eq_decide] at signs sizes
          congr 1
          omega
      | real other => exact absurd same (integer_text_ne value other)
  | real number =>
      cases second with
      | integer other => exact absurd same.symm (integer_text_ne other number)
      | real other => exact congrArg real (Binary64.text_injective same)

theorem numeric_text (number : Number) : ∀ c ∈ number.text.toList, IsNumeric c := by
  have signed {negative : Bool} {body : List Char} (bodyNumeric : ∀ c ∈ body, IsNumeric c) :
      ∀ c ∈ (if negative then ['-'] else []) ++ body, IsNumeric c := by
    cases negative
    · exact bodyNumeric
    · exact List.forall_mem_cons.mpr ⟨by simp [IsNumeric], bodyNumeric⟩
  cases number with
  | integer value =>
      rw [toList_text_integer]
      exact signed (Binary64.allDigits_toDigits _).numeric
  | real value =>
      obtain ⟨body, layout, isUnsigned, -⟩ := value.exists_body
      change ∀ c ∈ value.text.toList, IsNumeric c
      rw [layout, Binary64.toList_signText]
      exact signed isUnsigned.numeric

/-- The text of a number starts with a digit or a sign. -/
theorem exists_text_eq (number : Number) :
    ∃ c rest, number.text.toList = c :: rest ∧ (c.isDigit = true ∨ c = '-') := by
  have signed {negative : Bool} {body : List Char}
      (starts : ∃ c rest, body = c :: rest ∧ c.isDigit = true) :
      ∃ c rest, (if negative then ['-'] else []) ++ body = c :: rest ∧
        (c.isDigit = true ∨ c = '-') := by
    obtain ⟨c, rest, rfl, isDigit⟩ := starts
    cases negative
    · exact ⟨c, rest, rfl, .inl isDigit⟩
    · exact ⟨'-', c :: rest, rfl, .inr rfl⟩
  cases number with
  | integer value =>
      rw [toList_text_integer]
      exact signed (toDigits_starts _)
  | real value =>
      obtain ⟨body, layout, isUnsigned, -⟩ := value.exists_body
      change ∃ c rest, value.text.toList = c :: rest ∧ _
      rw [layout, Binary64.toList_signText]
      exact signed isUnsigned.starts

end Number

namespace Value

/-! ### Texts between quotes -/

theorem hexValue4?_hexDigit : ∀ n < 32,
    Strict.hexValue4? '0' '0' (hexDigit (n / 16)) (hexDigit (n % 16)) = some n := by
  decide +kernel

/-- A character is read back from what is written for it. -/
theorem standsFor_quotedChar (c : Char) : Strict.StandsFor (quotedChar c) c := by
  unfold quotedChar
  split
  · exact Strict.standsFor_escape (by decide) rfl
  · exact Strict.standsFor_escape (by decide) rfl
  · exact Strict.standsFor_escape (by decide) rfl
  · exact Strict.standsFor_escape (by decide) rfl
  · exact Strict.standsFor_escape (by decide) rfl
  · rename_i noQuote noBackslash _ _ _
    split
    · rename_i isBackspace
      rw [← Char.ofNat_toNat c, isBackspace]
      exact Strict.standsFor_escape (by decide) rfl
    split
    · rename_i isFeed
      rw [← Char.ofNat_toNat c, isFeed]
      exact Strict.standsFor_escape (by decide) rfl
    split
    · rename_i control
      have stands := Strict.standsFor_code (hexValue4?_hexDigit c.toNat control)
        (by omega) (by omega)
      rw [Char.ofNat_toNat] at stands
      exact stands
    · rename_i noControl
      exact Strict.standsFor_self noQuote noBackslash noControl

theorem reads_quoted (content done : List Char) :
    Strict.Reads (fun place => Strict.scanText place done) (fun _ => True)
      (content.flatMap quotedChar ++ ['"']) (String.ofList (done.reverse ++ content)) := by
  induction content generalizing done with
  | nil =>
      intro place rest _
      refine ⟨place.after '"', ?_⟩
      rw [List.append_nil]
      rfl
  | cons c content inductionHypothesis =>
      have reads := inductionHypothesis (c :: done)
      rw [List.reverse_cons, List.append_assoc] at reads
      rw [List.flatMap_cons, List.append_assoc]
      exact (standsFor_quotedChar c).reads reads

theorem quoted_append_inj {first second : String} {rest otherRest : List Char}
    (same : (quoted first).toList ++ rest = (quoted second).toList ++ otherRest) :
    first = second ∧ rest = otherRest := by
  unfold quoted at same
  rw [String.toList_ofList, String.toList_ofList] at same
  injection same with _ bodies
  obtain ⟨after, scans⟩ := reads_quoted first.toList [] default rest trivial
  obtain ⟨otherAfter, otherScans⟩ := reads_quoted second.toList [] default otherRest trivial
  change first.toList.flatMap quotedChar ++ ['"'] ++ rest =
    second.toList.flatMap quotedChar ++ ['"'] ++ otherRest at bodies
  rw [bodies, otherScans] at scans
  injection scans with results
  injection results with contents rests
  injection rests with _ rests
  exact ⟨String.toList_injective (String.ofList_injective contents.symm), rests.symm⟩

/-! ### Where a value ends -/

/-- A rest that nothing written of a value goes on in. -/
def EndsValue : List Char → Prop
  | [] => True
  | c :: _ => c = ',' ∨ c = ']' ∨ c = '\x7d'

theorem EndsValue.not_numeric {c : Char} {rest : List Char} (ends : EndsValue (c :: rest)) :
    ¬ IsNumeric c := by
  rcases ends with rfl | rfl | rfl <;> simp [IsNumeric, Char.isDigit]

/-- Of two numbers in one text neither goes on where the other has ended. -/
theorem numeric_append_inj {first second rest otherRest : List Char}
    (numeric : ∀ c ∈ first, IsNumeric c) (otherNumeric : ∀ c ∈ second, IsNumeric c)
    (ends : EndsValue rest) (otherEnds : EndsValue otherRest)
    (same : first ++ rest = second ++ otherRest) : first = second ∧ rest = otherRest := by
  induction first generalizing second with
  | nil =>
      cases second with
      | nil => exact ⟨rfl, same⟩
      | cons d others =>
          rw [List.nil_append] at same
          subst same
          exact absurd (otherNumeric d List.mem_cons_self) ends.not_numeric
  | cons c more inductionHypothesis =>
      cases second with
      | nil =>
          rw [List.nil_append] at same
          subst same
          exact absurd (numeric c List.mem_cons_self) otherEnds.not_numeric
      | cons d others =>
          injection same with head tail
          subst head
          obtain ⟨rfl, rests⟩ := inductionHypothesis (List.forall_mem_cons.mp numeric).2
            (List.forall_mem_cons.mp otherNumeric).2 tail
          exact ⟨rfl, rests⟩

/-! ### What kind of value is written -/

/-- The kind of the value that starts with a character. -/
def kindAt? (c : Char) : Option String :=
  if c = 'n' then some "null"
  else if c = 't' ∨ c = 'f' then some "a boolean"
  else if c = '"' then some "a string"
  else if c = '[' then some "a list"
  else if c = '\x7b' then some "a mapping"
  else if c.isDigit = true ∨ c = '-' then some "a number"
  else none

theorem kindAt?_of_number {c : Char} (starts : c.isDigit = true ∨ c = '-') :
    kindAt? c = some "a number" := by
  have different {d : Char} (noDigit : d.isDigit = false) (noSign : d ≠ '-') : c ≠ d := by
    rintro rfl
    rcases starts with isDigit | sign
    · exact Bool.false_ne_true (noDigit.symm.trans isDigit)
    · exact noSign sign
  unfold kindAt?
  rw [if_neg (different rfl (by decide)), if_neg (not_or.mpr ⟨different rfl (by decide),
    different rfl (by decide)⟩), if_neg (different rfl (by decide)),
    if_neg (different rfl (by decide)), if_neg (different rfl (by decide)), if_pos starts]

/-- The first character of a value tells its kind. -/
theorem exists_compact_eq (value : Value) :
    ∃ c rest, value.compact.toList = c :: rest ∧ kindAt? c = some value.kind := by
  cases value with
  | null => exact ⟨'n', _, rfl, rfl⟩
  | boolean flag =>
      cases flag
      · exact ⟨'f', _, rfl, rfl⟩
      · exact ⟨'t', _, rfl, rfl⟩
  | number number =>
      obtain ⟨c, rest, layout, starts⟩ := number.exists_text_eq
      exact ⟨c, rest, layout, kindAt?_of_number starts⟩
  | text content => exact ⟨'"', _, String.toList_ofList, rfl⟩
  | list items =>
      rw [compact, String.toList_append, String.toList_append]
      exact ⟨'[', _, rfl, rfl⟩
  | mapping fields =>
      rw [compact, String.toList_append, String.toList_append]
      exact ⟨'\x7b', _, rfl, rfl⟩

theorem kind_eq_of_append {value other : Value} {rest otherRest : List Char}
    (same : value.compact.toList ++ rest = other.compact.toList ++ otherRest) :
    value.kind = other.kind := by
  obtain ⟨c, more, layout, kind⟩ := value.exists_compact_eq
  obtain ⟨d, others, otherLayout, otherKind⟩ := other.exists_compact_eq
  rw [layout, otherLayout] at same
  injection same with head _
  rw [head, otherKind] at kind
  exact Option.some_injective _ kind.symm

/-- No value starts with what ends a list or a mapping. -/
theorem compact_ne_closing {value : Value} {c : Char} {rest more : List Char}
    (closing : kindAt? c = none) : value.compact.toList ++ rest ≠ c :: more := by
  obtain ⟨d, others, layout, kind⟩ := value.exists_compact_eq
  intro same
  rw [layout] at same
  injection same with head _
  rw [head, closing] at kind
  cases kind

/-! ### One step for each kind -/

/-- What is written of a value is taken off a text in one way. -/
def Unambiguous (value : Value) : Prop :=
  ∀ other rest otherRest, EndsValue rest → EndsValue otherRest →
    value.compact.toList ++ rest = other.compact.toList ++ otherRest →
    value = other ∧ rest = otherRest

theorem unambiguous_null : Unambiguous .null := by
  intro other rest otherRest _ _ same
  have kinds := kind_eq_of_append same
  cases other with
  | null => exact ⟨rfl, List.append_cancel_left same⟩
  | _ => simp [kind] at kinds

theorem unambiguous_boolean (flag : Bool) : Unambiguous (.boolean flag) := by
  intro other rest otherRest _ _ same
  have kinds := kind_eq_of_append same
  cases other with
  | boolean otherFlag =>
      cases flag <;> cases otherFlag
      · exact ⟨rfl, List.append_cancel_left same⟩
      · injection same with head
        cases head
      · injection same with head
        cases head
      · exact ⟨rfl, List.append_cancel_left same⟩
  | _ => simp [kind] at kinds

theorem unambiguous_number (number : Number) : Unambiguous (.number number) := by
  intro other rest otherRest ends otherEnds same
  have kinds := kind_eq_of_append same
  cases other with
  | number otherNumber =>
      obtain ⟨texts, rests⟩ := numeric_append_inj number.numeric_text otherNumber.numeric_text ends
        otherEnds same
      exact ⟨congrArg Value.number (Number.text_injective (String.toList_injective texts)), rests⟩
  | _ => simp [kind] at kinds

theorem unambiguous_text (content : String) : Unambiguous (.text content) := by
  intro other rest otherRest _ _ same
  have kinds := kind_eq_of_append same
  cases other with
  | text otherContent =>
      obtain ⟨rfl, rests⟩ := quoted_append_inj same
      exact ⟨rfl, rests⟩
  | _ => simp [kind] at kinds

/-! ### Items and entries -/

section More

variable {α : Type}

/-- What is written behind the first of several parts: nothing, or a comma and the others. -/
def more (written : List α → List Char) : List α → List Char
  | [] => []
  | parts => ',' :: written parts

theorem endsValue_more (written : List α → List Char) (parts : List α) {closing : Char}
    (closes : closing = ']' ∨ closing = '\x7d') (rest : List Char) :
    EndsValue (more written parts ++ closing :: rest) := by
  cases parts with
  | nil => exact .inr closes
  | cons part others => exact .inl rfl

/-- The other parts are told from each other when they are told from each other without the
comma. -/
theorem more_append_inj {written : List α → List Char} {parts others : List α} {closing : Char}
    (noComma : closing ≠ ',') {rest otherRest : List Char}
    (inj : written parts ++ closing :: rest = written others ++ closing :: otherRest →
      parts = others ∧ rest = otherRest)
    (same : more written parts ++ closing :: rest = more written others ++ closing :: otherRest) :
    parts = others ∧ rest = otherRest := by
  cases parts with
  | nil =>
      cases others with
      | nil =>
          injection same with _ rests
          exact ⟨rfl, rests⟩
      | cons other others =>
          injection same with head
          exact absurd head noComma
  | cons part parts =>
      cases others with
      | nil =>
          injection same with head
          exact absurd head.symm noComma
      | cons other others =>
          injection same with _ tails
          exact inj tails

end More

/-! ### Lists -/

theorem toList_compactItems_cons (item : Value) (rest : List Value) :
    (compactItems (item :: rest)).toList =
      item.compact.toList ++ more (fun items => (compactItems items).toList) rest := by
  cases rest with
  | nil => exact (List.append_nil _).symm
  | cons next others =>
      rw [compactItems, String.toList_append, String.toList_append, List.append_assoc]
      · rfl
      · exact nofun

theorem compactItems_append_inj {items others : List Value} {rest otherRest : List Char}
    (each : ∀ item ∈ items, Unambiguous item)
    (same : (compactItems items).toList ++ ']' :: rest =
      (compactItems others).toList ++ ']' :: otherRest) : items = others ∧ rest = otherRest := by
  induction items generalizing others with
  | nil =>
      cases others with
      | nil =>
          injection same with _ rests
          exact ⟨rfl, rests⟩
      | cons other others =>
          rw [toList_compactItems_cons, List.append_assoc] at same
          exact absurd same.symm (compact_ne_closing rfl)
  | cons item items inductionHypothesis =>
      obtain ⟨itemUnambiguous, itemsUnambiguous⟩ := List.forall_mem_cons.mp each
      cases others with
      | nil =>
          rw [toList_compactItems_cons, List.append_assoc] at same
          exact absurd same (compact_ne_closing rfl)
      | cons other others =>
          rw [toList_compactItems_cons, toList_compactItems_cons, List.append_assoc,
            List.append_assoc] at same
          obtain ⟨rfl, tails⟩ := itemUnambiguous other _ _
            (endsValue_more _ items (.inl rfl) rest) (endsValue_more _ others (.inl rfl) otherRest)
            same
          obtain ⟨rfl, rests⟩ := more_append_inj (by decide)
            (inductionHypothesis itemsUnambiguous) tails
          exact ⟨rfl, rests⟩

theorem unambiguous_list {items : List Value} (each : ∀ item ∈ items, Unambiguous item) :
    Unambiguous (.list items) := by
  intro other rest otherRest _ _ same
  have kinds := kind_eq_of_append same
  cases other with
  | list others =>
      rw [compact, compact] at same
      simp only [String.toList_append, List.append_assoc] at same
      injection same with _ bodies
      obtain ⟨rfl, rests⟩ := compactItems_append_inj each bodies
      exact ⟨rfl, rests⟩
  | _ => simp [kind] at kinds

/-! ### Mappings -/

theorem toList_compactFields_cons (key : String) (value : Value) (rest : List (String × Value)) :
    (compactFields ((key, value) :: rest)).toList = (quoted key).toList ++ ':' ::
      (value.compact.toList ++ more (fun fields => (compactFields fields).toList) rest) := by
  cases rest with
  | nil =>
      rw [compactFields, String.toList_append, String.toList_append, List.append_assoc, more,
        List.append_nil]
      rfl
  | cons next others =>
      rw [compactFields]
      · simp only [String.toList_append, List.append_assoc]
        rfl
      · exact nofun

theorem quoted_ne_closing {key : String} {rest more : List Char} :
    (quoted key).toList ++ rest ≠ '\x7d' :: more := by
  unfold quoted
  rw [String.toList_ofList]
  intro same
  injection same with head
  cases head

theorem compactFields_append_inj {fields others : List (String × Value)}
    {rest otherRest : List Char} (each : ∀ entry ∈ fields, Unambiguous entry.2)
    (same : (compactFields fields).toList ++ '\x7d' :: rest =
      (compactFields others).toList ++ '\x7d' :: otherRest) :
    fields = others ∧ rest = otherRest := by
  induction fields generalizing others with
  | nil =>
      rcases others with _ | ⟨⟨key, value⟩, others⟩
      · injection same with _ rests
        exact ⟨rfl, rests⟩
      · rw [toList_compactFields_cons, List.append_assoc] at same
        exact absurd same.symm quoted_ne_closing
  | cons entry fields inductionHypothesis =>
      obtain ⟨key, value⟩ := entry
      obtain ⟨valueUnambiguous, fieldsUnambiguous⟩ := List.forall_mem_cons.mp each
      rcases others with _ | ⟨⟨otherKey, otherValue⟩, others⟩
      · rw [toList_compactFields_cons, List.append_assoc] at same
        exact absurd same quoted_ne_closing
      · rw [toList_compactFields_cons, toList_compactFields_cons, List.append_assoc,
          List.append_assoc, List.cons_append, List.cons_append, List.append_assoc,
          List.append_assoc] at same
        obtain ⟨rfl, bodies⟩ := quoted_append_inj same
        injection bodies with _ bodies
        obtain ⟨rfl, tails⟩ := valueUnambiguous otherValue _ _
          (endsValue_more _ fields (.inr rfl) rest) (endsValue_more _ others (.inr rfl) otherRest)
          bodies
        obtain ⟨rfl, rests⟩ := more_append_inj (by decide)
          (inductionHypothesis fieldsUnambiguous) tails
        exact ⟨rfl, rests⟩

theorem unambiguous_mapping {fields : List (String × Value)}
    (each : ∀ entry ∈ fields, Unambiguous entry.2) : Unambiguous (.mapping fields) := by
  intro other rest otherRest _ _ same
  have kinds := kind_eq_of_append same
  cases other with
  | mapping others =>
      rw [compact, compact] at same
      simp only [String.toList_append, List.append_assoc] at same
      injection same with _ bodies
      obtain ⟨rfl, rests⟩ := compactFields_append_inj each bodies
      exact ⟨rfl, rests⟩
  | _ => simp [kind] at kinds

/-! ### Whole values -/

mutual

theorem unambiguous (value : Value) : value.Unambiguous := by
  cases value with
  | null => exact unambiguous_null
  | boolean flag => exact unambiguous_boolean flag
  | number number => exact unambiguous_number number
  | text content => exact unambiguous_text content
  | list items => exact unambiguous_list (unambiguousItems items)
  | mapping fields => exact unambiguous_mapping (unambiguousFields fields)

theorem unambiguousItems (items : List Value) : ∀ item ∈ items, Unambiguous item := by
  cases items with
  | nil => exact fun _ membership => absurd membership List.not_mem_nil
  | cons item rest => exact List.forall_mem_cons.mpr ⟨unambiguous item, unambiguousItems rest⟩

theorem unambiguousFields (fields : List (String × Value)) :
    ∀ entry ∈ fields, Unambiguous entry.2 := by
  rcases fields with _ | ⟨⟨key, value⟩, rest⟩
  · exact fun _ membership => absurd membership List.not_mem_nil
  · exact List.forall_mem_cons.mpr ⟨unambiguous value, unambiguousFields rest⟩

end

/-- Different values have different texts. -/
theorem compact_injective : Function.Injective compact := by
  intro value other same
  have texts : value.compact.toList ++ [] = other.compact.toList ++ [] := by rw [same]
  exact (unambiguous value other [] [] trivial trivial texts).1

end Value

end BotConfig
