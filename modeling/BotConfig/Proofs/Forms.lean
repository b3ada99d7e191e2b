import BotConfig.Proofs.Fields
import BotConfig.Proofs.Spelling

/-!
The grammar of strict documents.

A form is a value as a document writes it: the tokens as they are spelled, in the order they stand.
The strict reader accepts the texts that spell a form with nothing but blanks between the tokens,
and no others, and yields the value of the form.
-/

namespace BotConfig.Strict

open Comment

/-! ### Marks of punctuation -/

def Token.mark? : Token → Option Char
  | .listOpen => some '['
  | .listClose => some ']'
  | .mappingOpen => some '\x7b'
  | .mappingClose => some '\x7d'
  | .comma => some ','
  | .colon => some ':'
  | _ => none

theorem scanToken_mark {token : Token} {c : Char} (isMark : token.mark? = some c) (place : Place)
    (rest : List Char) : scanToken place c rest = .ok (token, place.after c, rest) := by
  cases token <;> cases isMark <;> rfl

theorem eq_of_scanToken_mark {token : Token} {c d : Char} (isMark : token.mark? = some c)
    {place after : Place} {input rest : List Char}
    (scans : scanToken place d input = .ok (token, after, rest)) : d = c ∧ input = rest := by
  unfold scanToken at scans
  dsimp only at scans
  split at scans
  case h_12 =>
    split at scans
    · obtain ⟨⟨_, _, _⟩, _, ⟨⟩⟩ := exists_of_map_eq_ok scans
      cases isMark
    · cases scans
  case h_7 | h_8 | h_9 | h_10 | h_11 =>
    obtain ⟨⟨_, _, _⟩, _, ⟨⟩⟩ := exists_of_map_eq_ok scans
    cases isMark
  all_goals
    cases scans
    exact ⟨Option.some.inj isMark, rfl⟩

namespace Spelling

def mark (token : Token) (c : Char) (isMark : token.mark? = some c) : Spelling where
  text := [c]
  token := token
  spells := ⟨c, [], rfl, fun place rest _ => ⟨place.after c, scanToken_mark isMark place rest⟩⟩

theorem eq_mark {spelling : Spelling} {token : Token} {c : Char} (isMark : token.mark? = some c)
    (spells : spelling.token = token) : spelling = mark token c isMark := by
  obtain ⟨text, token, first, others, rfl, reads⟩ := spelling
  subst spells
  obtain ⟨_, scans⟩ := reads .start [] token.mayPrecede_nil
  obtain ⟨rfl, nothing⟩ := eq_of_scanToken_mark isMark scans
  rw [List.append_nil] at nothing
  subst nothing
  rfl

def listOpen : Spelling := mark .listOpen '[' rfl

def listClose : Spelling := mark .listClose ']' rfl

def mappingOpen : Spelling := mark .mappingOpen '\x7b' rfl

def mappingClose : Spelling := mark .mappingClose '\x7d' rfl

def comma : Spelling := mark .comma ',' rfl

def colon : Spelling := mark .colon ':' rfl

end Spelling

/-! ### Forms -/

def Token.value? : Token → Option Value
  | .null => some .null
  | .boolean flag => some (.boolean flag)
  | .number value => some (.number value)
  | .text content => some (.text content)
  | _ => none

/-- A value that one token spells. -/
structure Scalar where
  spelling : Spelling
  value : Value
  spells : spelling.token.value? = some value

/-- The key of a member of a mapping. -/
structure Name where
  spelling : Spelling
  content : String
  spells : spelling.token = .text content

def Scalar.ofScan {place after : Place} {first : Char} {others : List Char} {token : Token}
    {value : Value} (scans : scanToken place first others = .ok (token, after, []))
    (isValue : token.value? = some value) : Scalar :=
  ⟨.ofScan scans, value, isValue⟩

def Name.ofScan {place after : Place} {first : Char} {others : List Char} {content : String}
    (scans : scanToken place first others = .ok (.text content, after, [])) : Name :=
  ⟨.ofScan scans, content, rfl⟩

/-- A value as a document writes it. -/
inductive Form where
  | scalar (leaf : Scalar)
  | list (items : List Form)
  | mapping (members : List (Name × Form))

/-- Spellings of several parts, with commas between the parts. -/
def separated : List (List Spelling) → List Spelling
  | [] => []
  | [part] => part
  | part :: next :: others => part ++ .comma :: separated (next :: others)

namespace Form

mutual

/-- The tokens of a form in the order they stand. -/
def spellings : Form → List Spelling
  | .scalar leaf => [leaf.spelling]
  | .list items => .listOpen :: (separated (itemParts items) ++ [.listClose])
  | .mapping members => .mappingOpen :: (separated (memberParts members) ++ [.mappingClose])

def itemParts : List Form → List (List Spelling)
  | [] => []
  | item :: rest => item.spellings :: itemParts rest

def memberParts : List (Name × Form) → List (List Spelling)
  | [] => []
  | (name, form) :: rest => (name.spelling :: .colon :: form.spellings) :: memberParts rest

end

mutual

/-- The value of a form. Of members with one key the last one counts. -/
def value : Form → Value
  | .scalar leaf => leaf.value
  | .list items => .list (itemValues items)
  | .mapping members => .mapping (Fields.ofEntries (entries members))

def itemValues : List Form → List Value
  | [] => []
  | item :: rest => item.value :: itemValues rest

def entries : List (Name × Form) → List (String × Value)
  | [] => []
  | (name, form) :: rest => (name.content, form.value) :: entries rest

end

mutual

/-- How deep the lists and mappings of a form are nested. -/
def depth : Form → Nat
  | .scalar _ => 0
  | .list items => itemsDepth items + 1
  | .mapping members => membersDepth members + 1

def itemsDepth : List Form → Nat
  | [] => 0
  | item :: rest => max item.depth (itemsDepth rest)

def membersDepth : List (Name × Form) → Nat
  | [] => 0
  | (_, form) :: rest => max form.depth (membersDepth rest)

end

end Form

namespace Form

theorem separated_itemParts (item next : Form) (items : List Form) :
    separated (itemParts (item :: next :: items)) =
      item.spellings ++ .comma :: separated (itemParts (next :: items)) := rfl

theorem separated_memberParts (name : Name) (form : Form) (next : Name × Form)
    (members : List (Name × Form)) :
    separated (memberParts ((name, form) :: next :: members)) =
      name.spelling :: .colon ::
        (form.spellings ++ .comma :: separated (memberParts (next :: members))) := rfl

end Form

/-! ### Numbers end at the token after them -/

namespace Spelling

theorem mayPrecede_mark {token : Token} {c : Char} (isMark : token.mark? = some c)
    (spelling : Spelling) : spelling.MayPrecede (mark token c isMark) := by
  refine .of_endsNumber ?_ _
  cases token <;> cases isMark <;> simp [mark, EndsNumber, Char.isDigit]

theorem mark_mayPrecede {token : Token} {c : Char} (isMark : token.mark? = some c)
    (spelling : Spelling) : (mark token c isMark).MayPrecede spelling := by
  cases token <;> cases isMark <;> trivial

/-- A mark joins two chains into one. -/
theorem isChain_append_mark {token : Token} {c : Char} (isMark : token.mark? = some c)
    {first second : List Spelling} (firstChain : first.IsChain MayPrecede)
    (secondChain : second.IsChain MayPrecede) :
    (first ++ mark token c isMark :: second).IsChain MayPrecede := by
  refine List.isChain_append.mpr ⟨firstChain, ?_, ?_⟩
  · exact List.isChain_cons.mpr ⟨fun next _ => mark_mayPrecede isMark next, secondChain⟩
  · rintro last _ next ⟨⟩
    exact mayPrecede_mark isMark last

theorem isChain_enclosed {opening closing : Token} {c d : Char}
    (opens : opening.mark? = some c) (closes : closing.mark? = some d) {inner : List Spelling}
    (chain : inner.IsChain MayPrecede) :
    (mark opening c opens :: (inner ++ [mark closing d closes])).IsChain MayPrecede :=
  isChain_append_mark opens .nil (isChain_append_mark closes chain .nil)

end Spelling

theorem isChain_separated {parts : List (List Spelling)}
    (chains : ∀ part ∈ parts, part.IsChain Spelling.MayPrecede) :
    (separated parts).IsChain Spelling.MayPrecede := by
  induction parts with
  | nil => exact .nil
  | cons part others inductionHypothesis =>
      obtain ⟨first, rest⟩ := List.forall_mem_cons.mp chains
      cases others with
      | nil => exact first
      | cons next others =>
          exact Spelling.isChain_append_mark _ first (inductionHypothesis rest)

namespace Form

mutual

theorem isChain_spellings (form : Form) : form.spellings.IsChain Spelling.MayPrecede := by
  cases form with
  | scalar leaf => exact .singleton _
  | list items =>
      exact Spelling.isChain_enclosed _ _ (isChain_separated (isChain_itemParts items))
  | mapping members =>
      exact Spelling.isChain_enclosed _ _ (isChain_separated (isChain_memberParts members))

theorem isChain_itemParts (items : List Form) :
    ∀ part ∈ itemParts items, part.IsChain Spelling.MayPrecede := by
  cases items with
  | nil => simp [itemParts]
  | cons item rest =>
      exact List.forall_mem_cons.mpr ⟨isChain_spellings item, isChain_itemParts rest⟩

theorem isChain_memberParts (members : List (Name × Form)) :
    ∀ part ∈ memberParts members, part.IsChain Spelling.MayPrecede := by
  rcases members with _ | ⟨⟨name, form⟩, rest⟩
  · simp [memberParts]
  · refine List.forall_mem_cons.mpr ⟨?_, isChain_memberParts rest⟩
    exact Spelling.isChain_append_mark _ (.singleton name.spelling) (isChain_spellings form)

end

end Form

/-! ### Depth -/

/-- How deep a row of tokens nests, from a level on. -/
def nesting : Nat → List Token → Nat
  | level, [] => level
  | level, token :: rest =>
      match token with
      | .listOpen | .mappingOpen => nesting (level + 1) rest
      | .listClose | .mappingClose => max level (nesting (level - 1) rest)
      | _ => nesting level rest

theorem le_nesting (level : Nat) (tokens : List Token) : level ≤ nesting level tokens := by
  induction tokens generalizing level with
  | nil => exact Nat.le_refl level
  | cons token rest inductionHypothesis =>
      have inside := inductionHypothesis (level + 1)
      have beside := inductionHypothesis level
      unfold nesting
      split
      · omega
      · omega
      · exact Nat.le_max_left _ _
      · exact Nat.le_max_left _ _
      · exact beside

/-- Spellings are nested so deep, and close what they open. -/
def Nests (spellings : List Spelling) (depth : Nat) : Prop :=
  ∀ level rest, nesting level (spellings.map Spelling.token ++ rest) =
    max (level + depth) (nesting level rest)

namespace Nests

variable {first others inner : List Spelling} {depth otherDepth : Nat}

theorem nil : Nests [] 0 :=
  fun level rest => (Nat.max_eq_right (le_nesting level rest)).symm

theorem cons_value {token : Token} {value : Value} {spelling : Spelling}
    (spells : spelling.token = token) (isValue : token.value? = some value)
    (nests : Nests others depth) : Nests (spelling :: others) depth := by
  intro level rest
  have skips : ∀ rest, nesting level (spelling.token :: rest) = nesting level rest := by
    intro rest
    rw [spells]
    cases token <;> first | rfl | cases isValue
  rw [List.map_cons, List.cons_append, skips]
  exact nests level rest

theorem append_comma (nests : Nests first depth) (othersNest : Nests others otherDepth) :
    Nests (first ++ .comma :: others) (max depth otherDepth) := by
  intro level rest
  have below : nesting level (Token.comma :: (others.map Spelling.token ++ rest)) =
      max (level + otherDepth) (nesting level rest) := othersNest level rest
  rw [List.map_append, List.append_assoc, nests level]
  refine (congrArg (max (level + depth)) below).trans ?_
  omega

theorem list (nests : Nests inner depth) :
    Nests (.listOpen :: (inner ++ [.listClose])) (depth + 1) := by
  intro level rest
  have inside := nests (level + 1) (.listClose :: rest)
  have closes : nesting (level + 1) (.listClose :: rest) =
      max (level + 1) (nesting level rest) := rfl
  rw [List.map_cons, List.map_append, List.cons_append, List.append_assoc]
  refine inside.trans ?_
  omega

theorem mapping (nests : Nests inner depth) :
    Nests (.mappingOpen :: (inner ++ [.mappingClose])) (depth + 1) := by
  intro level rest
  have inside := nests (level + 1) (.mappingClose :: rest)
  have closes : nesting (level + 1) (.mappingClose :: rest) =
      max (level + 1) (nesting level rest) := rfl
  rw [List.map_cons, List.map_append, List.cons_append, List.append_assoc]
  refine inside.trans ?_
  omega

end Nests

namespace Form

mutual

/-- The depth of a form shows in its tokens, so all forms of a text have the same. -/
theorem nests_spellings (form : Form) : Nests form.spellings form.depth := by
  match form with
  | .scalar leaf => exact Nests.nil.cons_value rfl leaf.spells
  | .list items => exact (nests_itemParts items).list
  | .mapping members => exact (nests_memberParts members).mapping

theorem nests_itemParts (items : List Form) :
    Nests (separated (itemParts items)) (itemsDepth items) := by
  match items with
  | [] => exact .nil
  | [item] =>
      have nests := nests_spellings item
      rw [← Nat.max_zero item.depth] at nests
      exact nests
  | item :: next :: items =>
      exact (nests_spellings item).append_comma (nests_itemParts (next :: items))

theorem nests_memberParts (members : List (Name × Form)) :
    Nests (separated (memberParts members)) (membersDepth members) := by
  match members with
  | [] => exact .nil
  | [(name, form)] =>
      have nests := nests_member name form
      rw [← Nat.max_zero form.depth] at nests
      exact nests
  | (name, form) :: next :: members =>
      exact (nests_member name form).append_comma (nests_memberParts (next :: members))

theorem nests_member (name : Name) (form : Form) :
    Nests (name.spelling :: .colon :: form.spellings) form.depth := by
  have behindColon : Nests (.colon :: form.spellings) form.depth := nests_spellings form
  exact behindColon.cons_value name.spells rfl

end

end Form

end BotConfig.Strict
