import Mathlib.Data.List.Chain
import BotConfig.Proofs.Scanning

/-!
How the lexemes of strict documents are spelled.

A text spells a token if it is read as that token wherever it stands.  A document that is read to
its end is a sequence of spellings with blanks around them, and every other such sequence of the
same spellings has the same tokens.
-/

namespace BotConfig.Strict

open Comment

/-! ### Tokens -/

def Token.IsEnd : Token → Prop
  | .finish | .broken _ _ => True
  | _ => False

/-- Only a number may go on in what follows it. -/
def Token.MayPrecede : Token → List Char → Prop
  | .number _, rest => EndsNumber rest
  | _, _ => True

theorem Token.mayPrecede_nil (token : Token) : token.MayPrecede [] := by
  cases token <;> trivial

/-- A text is read as a token, wherever it stands. -/
def Spells (text : List Char) (token : Token) : Prop :=
  ∃ first others, text = first :: others ∧
    Reads (fun place => scanToken place first) token.MayPrecede others token

/-- The scanner of tokens takes a spelling from its input, which stays when comments are blanked. -/
def Takes (first : Char) (input : List Char) (token : Token) (rest : List Char) : Prop :=
  ¬ token.IsEnd ∧ ∃ others, input = others ++ rest ∧ Spells (first :: others) token ∧
    Becomes (first :: others) (first :: others)

theorem exists_of_map_eq_ok {ε α β : Type} {outcome : Except ε α} {change : α → β} {result : β}
    (changed : outcome.map change = .ok result) :
    ∃ value, outcome = .ok value ∧ change value = result := by
  cases outcome with
  | error failure => cases changed
  | ok value => exact ⟨value, rfl, Except.ok.inj changed⟩

theorem takes_single {c : Char} {token : Token} (bare : IsBare c) (inner : ¬ token.IsEnd)
    (scan_eq : ∀ place rest, scanToken place c rest = .ok (token, place.after c, rest))
    (rest : List Char) : Takes c rest token rest := by
  refine ⟨inner, [], rfl, ⟨c, [], rfl, ?_⟩, becomes_bare (by simpa using bare)⟩
  intro place rest _
  exact ⟨_, scan_eq place rest⟩

theorem takes_word {c : Char} (letters : List Char) {token : Token} (inner : ¬ token.IsEnd)
    (bare : ∀ d ∈ c :: letters, IsBare d)
    (scan_eq : ∀ place input, scanToken place c input =
      (scanWord (place.after c) letters input).map fun (_, after) => (token, after))
    {place after : Place} {input rest : List Char} {read : Token}
    (scans : scanToken place c input = .ok (read, after, rest)) : Takes c input read rest := by
  rw [scan_eq] at scans
  obtain ⟨⟨_, _, _⟩, word, ⟨⟩⟩ := exists_of_map_eq_ok scans
  refine ⟨inner, letters, scanWord_eq_ok word, ⟨c, letters, rfl, ?_⟩, becomes_bare bare⟩
  intro place rest _
  obtain ⟨after, again⟩ := reads_scanWord letters (place.after c) rest trivial
  refine ⟨after, ?_⟩
  dsimp only at again ⊢
  rw [scan_eq, again]
  rfl

theorem takes_text {place after : Place} {input rest : List Char} {content : String}
    (scans : scanText place [] input = .ok (content, after, rest)) :
    Takes '"' input (.text content) rest := by
  obtain ⟨body, rfl, isBody, reads⟩ := exists_body_of_scanText scans
  refine ⟨id, body, rfl, ⟨'"', body, rfl, ?_⟩, isBody.becomes⟩
  intro place rest _
  obtain ⟨after, again⟩ := reads (place.after '"') rest trivial
  exact ⟨after, by simp [scanToken, again, Except.map]⟩

theorem takes_negative {place after : Place} {input rest : List Char} {number : Number}
    (scans : scanNumber true place input = .ok (number, after, rest)) :
    Takes '-' input (.number number) rest := by
  obtain ⟨text, rfl, numeric, reads⟩ := takesNumeric_scanNumber true scans
  refine ⟨id, text, rfl, ⟨'-', text, rfl, ?_⟩, becomes_bare fun c membership => ?_⟩
  · intro place rest ends
    obtain ⟨after, again⟩ := reads (place.after '-') rest ends
    exact ⟨after, by simp [scanToken, again, Except.map]⟩
  · rcases List.mem_cons.mp membership with rfl | inText
    · simp [IsBare]
    · exact isBare_of_isNumeric (numeric c inText)

theorem scanToken_digit {c : Char} (digit : c.isDigit = true) (place : Place)
    (input : List Char) :
    scanToken place c input =
      (scanNumber false place (c :: input)).map fun (number, after) => (.number number, after) := by
  unfold scanToken
  split <;> first | cases digit | exact if_pos digit

theorem takes_digit {place after : Place} {c : Char} {input rest : List Char} {number : Number}
    (digit : c.isDigit = true)
    (scans : scanNumber false place (c :: input) = .ok (number, after, rest)) :
    Takes c input (.number number) rest := by
  obtain ⟨text, shape, numeric, reads⟩ := takesNumeric_scanNumber false scans
  cases text with
  | nil =>
      obtain ⟨_, again⟩ := reads place [] trivial
      cases again
  | cons d others =>
      obtain ⟨rfl, rfl⟩ := List.cons.inj shape
      refine ⟨id, others, rfl, ⟨c, others, rfl, ?_⟩,
        becomes_bare fun d membership => isBare_of_isNumeric (numeric d membership)⟩
      intro place rest ends
      obtain ⟨after, again⟩ := reads place rest ends
      exact ⟨after, by simp only [scanToken_digit digit, ← List.cons_append, again, Except.map]⟩

theorem takes_of_scanToken {place after : Place} {c : Char} {input rest : List Char}
    {token : Token} (scans : scanToken place c input = .ok (token, after, rest)) :
    Takes c input token rest := by
  have whole := scans
  unfold scanToken at scans
  dsimp only at scans
  split at scans
  case h_7 => exact takes_word "ull".toList id (by simp [IsBare]) (fun _ _ => rfl) whole
  case h_8 => exact takes_word "rue".toList id (by simp [IsBare]) (fun _ _ => rfl) whole
  case h_9 => exact takes_word "alse".toList id (by simp [IsBare]) (fun _ _ => rfl) whole
  case h_10 =>
    obtain ⟨⟨_, _, _⟩, texts, ⟨⟩⟩ := exists_of_map_eq_ok scans
    exact takes_text texts
  case h_11 =>
    obtain ⟨⟨_, _, _⟩, numbers, ⟨⟩⟩ := exists_of_map_eq_ok scans
    exact takes_negative numbers
  case h_12 =>
    split at scans
    · rename_i digit
      obtain ⟨⟨_, _, _⟩, numbers, ⟨⟩⟩ := exists_of_map_eq_ok scans
      exact takes_digit digit numbers
    · cases scans
  all_goals
    cases scans
    exact takes_single (by simp [IsBare]) id (fun _ _ => rfl) _

theorem isBlank_eq_false_of_scanToken {place : Place} {c : Char} {input : List Char}
    {result : Token × Place × List Char} (scans : scanToken place c input = .ok result) :
    isBlank c = false := by
  by_contra blank
  rw [Bool.not_eq_false] at blank
  simp only [isBlank, Bool.or_eq_true, beq_iff_eq, or_assoc] at blank
  rcases blank with rfl | rfl | rfl | rfl <;> cases scans

/-! ### Spellings in a row -/

/-- A token and a text that spells it. -/
structure Spelling where
  text : List Char
  token : Token
  spells : Spells text token

namespace Spelling

theorem takes (spelling : Spelling) :
    ∃ first others, spelling.text = first :: others ∧ isBlank first = false ∧
      Takes first others spelling.token [] := by
  obtain ⟨first, others, shape, reads⟩ := spelling.spells
  obtain ⟨_, scans⟩ := reads .start [] spelling.token.mayPrecede_nil
  rw [List.append_nil] at scans
  exact ⟨first, others, shape, isBlank_eq_false_of_scanToken scans, takes_of_scanToken scans⟩

theorem not_isEnd (spelling : Spelling) : ¬ spelling.token.IsEnd := by
  obtain ⟨_, _, _, _, inner, _⟩ := spelling.takes
  exact inner

theorem becomes (spelling : Spelling) : Becomes spelling.text spelling.text := by
  obtain ⟨first, others, shape, _, _, all, same, _, becomes⟩ := spelling.takes
  rw [List.append_nil] at same
  subst same
  rw [shape]
  exact becomes

/-- The spelling that a text is, if it is read as one token. -/
def ofScan {place after : Place} {first : Char} {others : List Char} {token : Token}
    (scans : scanToken place first others = .ok (token, after, [])) : Spelling where
  text := first :: others
  token := token
  spells := by
    obtain ⟨_, taken, same, spells, _⟩ := takes_of_scanToken scans
    rw [List.append_nil] at same
    exact same ▸ spells

def MayPrecede (spelling next : Spelling) : Prop := spelling.token.MayPrecede next.text

end Spelling

theorem endsNumber_of_isBlank {c : Char} (blank : isBlank c = true) (rest : List Char) :
    EndsNumber (c :: rest) := by
  simp only [isBlank, Bool.or_eq_true, beq_iff_eq, or_assoc] at blank
  rcases blank with rfl | rfl | rfl | rfl <;> simp [EndsNumber, Char.isDigit]

namespace Token.MayPrecede

theorem of_endsNumber {text : List Char} (ends : EndsNumber text) (token : Token) :
    token.MayPrecede text := by
  cases token with
  | number value => exact ends
  | _ => trivial

theorem append {token : Token} {c : Char} {text : List Char}
    (follows : token.MayPrecede (c :: text)) (rest : List Char) :
    token.MayPrecede (c :: text ++ rest) := by
  cases token with
  | number value => exact follows
  | _ => trivial

theorem behind_blanks {token : Token} {gap text : List Char} (blank : AllBlank gap)
    (follows : token.MayPrecede text) : token.MayPrecede (gap ++ text) := by
  cases gap with
  | nil => exact follows
  | cons c gap => exact .of_endsNumber (endsNumber_of_isBlank (blank c List.mem_cons_self) _) _

end Token.MayPrecede

/-- A text is made of spellings in a row, with gaps before, between and after them. -/
inductive Spread (IsGap : List Char → Prop) : List Spelling → List Char → Prop
  | finish {gap : List Char} : IsGap gap → Spread IsGap [] gap
  | token {gap rest : List Char} {spelling : Spelling} {others : List Spelling} :
      IsGap gap → Spread IsGap others rest →
        Spread IsGap (spelling :: others) (gap ++ spelling.text ++ rest)

namespace Spread

theorem cons_blank {c : Char} {spellings : List Spelling} {text : List Char}
    (blank : isBlank c = true) (spread : Spread AllBlank spellings text) :
    Spread AllBlank spellings (c :: text) := by
  cases spread with
  | finish gapBlank => exact .finish (List.forall_mem_cons.mpr ⟨blank, gapBlank⟩)
  | @token gap _ _ _ gapBlank rest =>
      have longer : AllBlank (c :: gap) := List.forall_mem_cons.mpr ⟨blank, gapBlank⟩
      simpa only [List.cons_append] using Spread.token longer rest

/-- Each spelling with the gap before it, and the gap at the end. -/
theorem of_gaps {IsGap : List Char → Prop} (pieces : List (List Char × Spelling))
    {last : List Char} (gaps : ∀ piece ∈ pieces, IsGap piece.1) (lastGap : IsGap last) :
    Spread IsGap (pieces.map Prod.snd)
      (pieces.foldr (fun piece rest => piece.1 ++ piece.2.text ++ rest) last) := by
  induction pieces with
  | nil => exact .finish lastGap
  | cons piece others inductionHypothesis =>
      obtain ⟨gap, othersGap⟩ := List.forall_mem_cons.mp gaps
      exact .token gap (inductionHypothesis othersGap)

/-- Spellings with blanks between them stay when comments are blanked. -/
theorem becomes {spellings : List Spelling} {text : List Char}
    (spread : Spread AllBlank spellings text) : Becomes text text := by
  induction spread with
  | finish gapBlank => exact gapBlank.becomes
  | @token _ _ spelling _ gapBlank _ inductionHypothesis =>
      exact (gapBlank.becomes.append spelling.becomes).append inductionHypothesis

/-- Blanking turns comments between spellings into blanks between the same spellings. -/
theorem exists_blanked {spellings : List Spelling} {text : List Char}
    (spread : Spread Gap spellings text) :
    ∃ blanked, Becomes text blanked ∧ Spread AllBlank spellings blanked := by
  induction spread with
  | finish isGap =>
      obtain ⟨blanked, blank, becomes⟩ := isGap.becomes
      exact ⟨blanked, becomes, .finish blank⟩
  | @token _ _ spelling _ isGap _ inductionHypothesis =>
      obtain ⟨blanked, blank, becomes⟩ := isGap.becomes
      obtain ⟨others, below, spread⟩ := inductionHypothesis
      exact ⟨_, (becomes.append spelling.becomes).append below, .token blank spread⟩

theorem mayPrecede {spelling : Spelling} {others : List Spelling} {rest : List Char}
    (chain : (spelling :: others).IsChain Spelling.MayPrecede)
    (spread : Spread AllBlank others rest) : spelling.token.MayPrecede rest := by
  cases spread with
  | finish gapBlank =>
      rw [← List.append_nil rest]
      exact .behind_blanks gapBlank spelling.token.mayPrecede_nil
  | @token gap others next _ gapBlank _ =>
      have follows : spelling.token.MayPrecede next.text := by
        cases chain with
        | cons_cons follows _ => exact follows
      obtain ⟨first, more, shape, _⟩ := next.takes
      rw [shape] at follows ⊢
      rw [List.append_assoc]
      exact .behind_blanks gapBlank (follows.append others)

end Spread

theorem lexemes_gap {gap : List Char} (blank : AllBlank gap) (fuel : Nat) (place : Place)
    (rest : List Char) :
    ∃ after, lexemes (gap.length + fuel) place (gap ++ rest) = lexemes fuel after rest := by
  induction gap generalizing place with
  | nil => exact ⟨place, by simp⟩
  | cons c others inductionHypothesis =>
      obtain ⟨first, othersBlank⟩ := List.forall_mem_cons.mp blank
      obtain ⟨after, below⟩ := inductionHypothesis othersBlank (place.after c)
      refine ⟨after, ?_⟩
      rw [List.cons_append, List.length_cons, Nat.add_right_comm, lexemes, if_pos first, below]

theorem lexemes_token {place after : Place} {c : Char} {input rest : List Char} {token : Token}
    (scans : scanToken place c input = .ok (token, after, rest)) (fuel : Nat) :
    lexemes (fuel + 1) place (c :: input) =
      ⟨place.afterByte c, token⟩ :: lexemes fuel after rest := by
  rw [lexemes, if_neg (by simp [isBlank_eq_false_of_scanToken scans]), scans]

/-- The tokens of spellings in a row are the tokens they spell. -/
theorem Spread.lexemes_eq {spellings : List Spelling} {text : List Char}
    (spread : Spread AllBlank spellings text)
    (chain : spellings.IsChain Spelling.MayPrecede) {fuel : Nat} (enough : text.length ≤ fuel)
    (place : Place) :
    (lexemes fuel place text).map Lexeme.token = spellings.map Spelling.token ++ [.finish] := by
  induction spread generalizing fuel place with
  | @finish gap gapBlank =>
      obtain ⟨left, rfl⟩ := Nat.exists_eq_add_of_le enough
      obtain ⟨after, skips⟩ := lexemes_gap gapBlank left place []
      rw [List.append_nil] at skips
      rw [skips]
      simp [lexemes]
  | @token gap rest spelling others gapBlank spread inductionHypothesis =>
      -- The gap takes as much fuel as it has blanks, and the token one more.
      obtain ⟨first, more, shape, reads⟩ := spelling.spells
      rw [shape, List.append_assoc, List.length_append, List.cons_append, List.length_cons,
        List.length_append] at enough
      obtain ⟨left, rfl⟩ : ∃ left, fuel = gap.length + (left + 1) :=
        ⟨fuel - gap.length - 1, by omega⟩
      obtain ⟨middle, skips⟩ := lexemes_gap gapBlank (left + 1) place (first :: (more ++ rest))
      obtain ⟨after, scans⟩ := reads middle rest (spread.mayPrecede chain)
      rw [shape, List.append_assoc, List.cons_append, skips, lexemes_token scans, List.map_cons,
        inductionHypothesis chain.of_cons (by omega) after, List.map_cons, List.cons_append]

/-- The lexemes of a text are spellings in a row up to the end of the text, or to a broken one. -/
theorem exists_spread (fuel : Nat) (place : Place) {text : List Char}
    (enough : text.length ≤ fuel) :
    ∃ spellings last, (lexemes fuel place text).map Lexeme.token =
        spellings.map Spelling.token ++ [last] ∧
      last.IsEnd ∧ (last = .finish → Spread AllBlank spellings text) := by
  induction fuel generalizing place text with
  | zero =>
      rw [List.eq_nil_of_length_eq_zero (Nat.le_zero.mp enough)]
      exact ⟨[], .finish, rfl, trivial, fun _ => .finish .nil⟩
  | succ fuel inductionHypothesis =>
      cases text with
      | nil => exact ⟨[], .finish, rfl, trivial, fun _ => .finish .nil⟩
      | cons c rest =>
          rw [List.length_cons] at enough
          cases blank : isBlank c with
          | true =>
              obtain ⟨spellings, last, tokens, isEnd, spread⟩ :=
                inductionHypothesis (place.after c) (Nat.le_of_succ_le_succ enough)
              refine ⟨spellings, last, ?_, isEnd, fun whole => (spread whole).cons_blank blank⟩
              rw [lexemes, if_pos blank, tokens]
          | false =>
              cases scans : scanToken place c rest with
              | error failure =>
                  refine ⟨[], .broken (c == '"') failure, ?_, trivial, nofun⟩
                  simp [lexemes, blank, scans]
              | ok result =>
                  obtain ⟨token, after, left⟩ := result
                  obtain ⟨_, others, rfl, spells, _⟩ := takes_of_scanToken scans
                  rw [List.length_append] at enough
                  have shorter : left.length ≤ fuel := by omega
                  obtain ⟨spellings, last, tokens, isEnd, spread⟩ :=
                    inductionHypothesis after shorter
                  refine ⟨⟨c :: others, token, spells⟩ :: spellings, last, ?_, isEnd, ?_⟩
                  · rw [lexemes_token scans, List.map_cons, tokens]
                    rfl
                  · intro whole
                    exact .token AllBlank.nil (spread whole)

end BotConfig.Strict
