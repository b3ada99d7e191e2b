import BotConfig.Proofs.Forms

/-!
The strict reader accepts the forms, and nothing else.

Both directions are inductions on the fuel of the reader, from one step for values, one for the
items of a list and one for the members of a mapping.
-/

namespace BotConfig.Strict

open Comment Form

/-! ### Lexemes of spellings -/

/-- Lexemes show spellings, and the token that ends them. -/
def Shows (lexemes : List Lexeme) (spellings : List Spelling) (last : Token) : Prop :=
  lexemes.map Lexeme.token = spellings.map Spelling.token ++ [last]

def Token.Opens : Token → Prop
  | .null | .boolean _ | .number _ | .text _ | .listOpen | .mappingOpen => True
  | _ => False

namespace Shows

variable {lexemes rest : List Lexeme} {spellings others : List Spelling} {spelling : Spelling}
  {token last : Token} {place : Place}

theorem cons (shown : Shows lexemes (spelling :: others) last) :
    ∃ place rest, lexemes = ⟨place, spelling.token⟩ :: rest ∧ Shows rest others last := by
  obtain ⟨⟨place, token⟩, rest, rfl, rfl, below⟩ := List.map_eq_cons_iff.mp shown
  exact ⟨place, rest, rfl, below⟩

theorem exists_spelling (shown : Shows (⟨place, token⟩ :: rest) spellings last)
    (isEnd : last.IsEnd) (inner : ¬ token.IsEnd) :
    ∃ spelling others, spellings = spelling :: others ∧ spelling.token = token ∧
      Shows rest others last := by
  cases spellings with
  | nil =>
      obtain ⟨rfl, _⟩ := List.cons.inj shown
      exact absurd isEnd inner
  | cons spelling others =>
      obtain ⟨same, below⟩ := List.cons.inj shown
      exact ⟨spelling, others, rfl, same.symm, below⟩

theorem exists_mark (shown : Shows (⟨place, token⟩ :: rest) spellings last) (isEnd : last.IsEnd)
    {c : Char} (isMark : token.mark? = some c) :
    ∃ others, spellings = .mark token c isMark :: others ∧ Shows rest others last := by
  have inner : ¬ token.IsEnd := by
    cases token <;> first | exact id | cases isMark
  obtain ⟨spelling, others, rfl, spells, below⟩ := shown.exists_spelling isEnd inner
  exact ⟨others, by rw [Spelling.eq_mark isMark spells], below⟩

end Shows

/-! ### What forms start with -/

/-- The first of the spellings may start a value. -/
def Opening (spellings : List Spelling) : Prop :=
  ∃ first others, spellings = first :: others ∧ first.token.Opens

theorem Opening.append {spellings : List Spelling} (opening : Opening spellings)
    (others : List Spelling) : Opening (spellings ++ others) := by
  obtain ⟨first, rest, rfl, opens⟩ := opening
  exact ⟨first, rest ++ others, rfl, opens⟩

theorem Opening.separated {part : List Spelling} (opening : Opening part)
    (others : List (List Spelling)) : Opening (separated (part :: others)) := by
  cases others with
  | nil => exact opening
  | cons next others => exact opening.append _

theorem Form.opening (form : Form) : Opening form.spellings := by
  cases form with
  | scalar leaf =>
      refine ⟨leaf.spelling, [], rfl, ?_⟩
      have spells := leaf.spells
      revert spells
      cases leaf.spelling.token <;> first | exact fun _ => trivial | exact nofun
  | list items => exact ⟨_, _, rfl, trivial⟩
  | mapping members => exact ⟨_, _, rfl, trivial⟩

theorem Name.opening (name : Name) (others : List Spelling) :
    Opening (name.spelling :: others) := by
  refine ⟨name.spelling, others, rfl, ?_⟩
  rw [name.spells]
  trivial

/-! ### One step of the reader -/

section

variable {lexemes : List Lexeme} {more : List Spelling} {last : Token}

/-- What starts a value is neither the end of a list or mapping nor the end of the text. -/
theorem Shows.exists_opens (shown : Shows lexemes more last) (opening : Opening more) :
    ∃ place token rest, lexemes = ⟨place, token⟩ :: rest ∧ token.Opens := by
  obtain ⟨first, others, rfl, opens⟩ := opening
  obtain ⟨place, rest, rfl, _⟩ := shown.cons
  exact ⟨place, first.token, rest, rfl, opens⟩

theorem afterItem_listClose (shown : Shows lexemes (.listClose :: more) last) :
    ∃ rest, afterItem lexemes = .ok (.close, rest) ∧ Shows rest more last := by
  obtain ⟨_, rest, rfl, below⟩ := shown.cons
  exact ⟨rest, rfl, below⟩

theorem afterEntry_mappingClose (shown : Shows lexemes (.mappingClose :: more) last) :
    ∃ rest, afterEntry lexemes = .ok (.close, rest) ∧ Shows rest more last := by
  obtain ⟨_, rest, rfl, below⟩ := shown.cons
  exact ⟨rest, rfl, below⟩

theorem afterItem_comma (shown : Shows lexemes (.comma :: more) last) (opening : Opening more) :
    ∃ rest, afterItem lexemes = .ok (.more, rest) ∧ Shows rest more last := by
  obtain ⟨_, rest, rfl, below⟩ := shown.cons
  refine ⟨rest, ?_, below⟩
  obtain ⟨_, token, _, rfl, opens⟩ := below.exists_opens opening
  cases token <;> first | rfl | cases opens

theorem afterEntry_comma (shown : Shows lexemes (.comma :: more) last) (opening : Opening more) :
    ∃ rest, afterEntry lexemes = .ok (.more, rest) ∧ Shows rest more last := by
  obtain ⟨_, rest, rfl, below⟩ := shown.cons
  refine ⟨rest, ?_, below⟩
  obtain ⟨_, token, _, rfl, opens⟩ := below.exists_opens opening
  cases token <;> first | rfl | cases opens

theorem readKey_name {name : Name} (shown : Shows lexemes (name.spelling :: .colon :: more) last) :
    ∃ rest, readKey lexemes = .ok (name.content, rest) ∧ Shows rest more last := by
  obtain ⟨_, _, rfl, shownColon⟩ := shown.cons
  obtain ⟨_, rest, rfl, below⟩ := shownColon.cons
  rw [name.spells]
  exact ⟨rest, rfl, below⟩

theorem readValue_scalar (fuel depth : Nat) {leaf : Scalar}
    (shown : Shows lexemes (leaf.spelling :: more) last) :
    ∃ rest, readValue (fuel + 1) depth lexemes = .ok (leaf.value, rest) ∧
      Shows rest more last := by
  obtain ⟨place, rest, rfl, below⟩ := shown.cons
  obtain ⟨spelling, value, spells⟩ := leaf
  refine ⟨rest, ?_, below⟩
  revert spells
  dsimp only
  cases spelling.token <;> rintro ⟨⟩ <;> simp [readValue]

theorem readValue_listOpen (fuel : Nat) {depth : Nat} (room : ¬ depth ≤ 1) (place : Place)
    (shown : Shows lexemes more last) (opening : Opening more) :
    readValue (fuel + 1) depth (⟨place, .listOpen⟩ :: lexemes) = (do
      let (items, rest) ← readItems fuel (depth - 1) lexemes
      return (.list items, rest)) := by
  obtain ⟨_, token, _, rfl, opens⟩ := shown.exists_opens opening
  simp only [readValue, if_neg room]
  cases token <;> first | rfl | cases opens

theorem readValue_mappingOpen (fuel : Nat) {depth : Nat} (room : ¬ depth ≤ 1) (place : Place)
    (shown : Shows lexemes more last) (opening : Opening more) :
    readValue (fuel + 1) depth (⟨place, .mappingOpen⟩ :: lexemes) = (do
      let (entries, rest) ← readEntries fuel (depth - 1) lexemes
      return (.mapping (Fields.ofEntries entries), rest)) := by
  obtain ⟨_, token, _, rfl, opens⟩ := shown.exists_opens opening
  simp only [readValue, if_neg room]
  cases token <;> first | rfl | cases opens

end

/-! ### Forms are read -/

-- A value, and each item of a list, takes one call of the reader for itself and at most two for
-- each token behind the first one.

/-- With some fuel, every form that is small enough is read as its value. -/
def ReadsForms (fuel : Nat) : Prop :=
  ∀ (form : Form) (depth : Nat) {lexemes : List Lexeme} {more : List Spelling} {last : Token},
    Shows lexemes (form.spellings ++ more) last → form.depth < depth →
    2 * form.spellings.length ≤ fuel →
      ∃ rest, readValue fuel depth lexemes = .ok (form.value, rest) ∧ Shows rest more last

def ReadsItems (fuel : Nat) : Prop :=
  ∀ (item : Form) (items : List Form) (depth : Nat) {lexemes : List Lexeme}
    {more : List Spelling} {last : Token},
    Shows lexemes (separated (itemParts (item :: items)) ++ .listClose :: more) last →
    itemsDepth (item :: items) < depth →
    2 * (separated (itemParts (item :: items))).length + 1 ≤ fuel →
      ∃ rest, readItems fuel depth lexemes = .ok (itemValues (item :: items), rest) ∧
        Shows rest more last

def ReadsMembers (fuel : Nat) : Prop :=
  ∀ (member : Name × Form) (members : List (Name × Form)) (depth : Nat) {lexemes : List Lexeme}
    {more : List Spelling} {last : Token},
    Shows lexemes (separated (memberParts (member :: members)) ++ .mappingClose :: more) last →
    membersDepth (member :: members) < depth →
    2 * (separated (memberParts (member :: members))).length + 1 ≤ fuel →
      ∃ rest, readEntries fuel depth lexemes = .ok (entries (member :: members), rest) ∧
        Shows rest more last

theorem readsItems_succ {fuel : Nat} (forms : ReadsForms fuel) (others : ReadsItems fuel) :
    ReadsItems (fuel + 1) := by
  intro item items depth lexemes more last shown shallow enough
  rw [itemsDepth, Nat.max_lt] at shallow
  cases items with
  | nil =>
      rw [itemParts, itemParts, separated] at shown enough
      obtain ⟨middle, value, shownMiddle⟩ := forms item depth shown shallow.1 (by omega)
      obtain ⟨rest, closes, shownRest⟩ := afterItem_listClose shownMiddle
      refine ⟨rest, ?_, shownRest⟩
      simp [readItems, value, closes, itemValues, bind, Except.bind, pure, Except.pure]
  | cons next items =>
      rw [separated_itemParts, List.append_assoc] at shown
      rw [separated_itemParts, List.length_append, List.length_cons] at enough
      obtain ⟨middle, value, shownMiddle⟩ := forms item depth shown shallow.1 (by omega)
      obtain ⟨inner, continues, shownInner⟩ :=
        afterItem_comma shownMiddle ((next.opening.separated _).append _)
      obtain ⟨rest, values, shownRest⟩ :=
        others next items depth shownInner shallow.2 (by omega)
      refine ⟨rest, ?_, shownRest⟩
      simp [readItems, value, continues, values, itemValues, bind, Except.bind, pure, Except.pure]

theorem readsMembers_succ {fuel : Nat} (forms : ReadsForms fuel) (others : ReadsMembers fuel) :
    ReadsMembers (fuel + 1) := by
  rintro ⟨name, form⟩ members depth lexemes more last shown shallow enough
  rw [membersDepth, Nat.max_lt] at shallow
  cases members with
  | nil =>
      rw [memberParts, memberParts, separated] at shown enough
      rw [List.length_cons, List.length_cons] at enough
      obtain ⟨afterKey, key, shownValue⟩ := readKey_name shown
      obtain ⟨middle, value, shownMiddle⟩ := forms form depth shownValue shallow.1 (by omega)
      obtain ⟨rest, closes, shownRest⟩ := afterEntry_mappingClose shownMiddle
      refine ⟨rest, ?_, shownRest⟩
      simp [readEntries, key, value, closes, entries, bind, Except.bind, pure, Except.pure]
  | cons next members =>
      rw [separated_memberParts, List.cons_append, List.cons_append, List.append_assoc] at shown
      rw [separated_memberParts, List.length_cons, List.length_cons, List.length_append,
        List.length_cons] at enough
      obtain ⟨afterKey, key, shownValue⟩ := readKey_name shown
      obtain ⟨middle, value, shownMiddle⟩ := forms form depth shownValue shallow.1 (by omega)
      obtain ⟨inner, continues, shownInner⟩ :=
        afterEntry_comma shownMiddle (((next.1.opening _).separated _).append _)
      obtain ⟨rest, values, shownRest⟩ :=
        others next members depth shownInner shallow.2 (by omega)
      refine ⟨rest, ?_, shownRest⟩
      simp [readEntries, key, value, continues, values, entries, bind, Except.bind, pure,
        Except.pure]

theorem readsForms_succ {fuel : Nat} (lists : ReadsItems fuel) (mappings : ReadsMembers fuel) :
    ReadsForms (fuel + 1) := by
  intro form depth lexemes more last shown shallow enough
  cases form with
  | scalar leaf =>
      exact readValue_scalar fuel depth shown
  | list items =>
      rw [Form.depth] at shallow
      rw [spellings, List.length_cons, List.length_append, List.length_singleton] at enough
      rw [spellings, List.cons_append, List.append_assoc] at shown
      obtain ⟨place, inner, rfl, shownInner⟩ := shown.cons
      have room : ¬ depth ≤ 1 := by omega
      cases items with
      | nil =>
          obtain ⟨_, rest, rfl, below⟩ := shownInner.cons
          exact ⟨rest, if_neg room, below⟩
      | cons item items =>
          obtain ⟨rest, values, below⟩ :=
            lists item items (depth - 1) shownInner (by omega) (by omega)
          refine ⟨rest, ?_, below⟩
          have opening : Opening (separated (itemParts (item :: items)) ++ .listClose :: more) :=
            (item.opening.separated _).append _
          have step := readValue_listOpen fuel room place shownInner opening
          rw [values] at step
          exact step
  | mapping members =>
      rw [Form.depth] at shallow
      rw [spellings, List.length_cons, List.length_append, List.length_singleton] at enough
      rw [spellings, List.cons_append, List.append_assoc] at shown
      obtain ⟨place, inner, rfl, shownInner⟩ := shown.cons
      have room : ¬ depth ≤ 1 := by omega
      cases members with
      | nil =>
          obtain ⟨_, rest, rfl, below⟩ := shownInner.cons
          exact ⟨rest, if_neg room, below⟩
      | cons member members =>
          obtain ⟨rest, values, below⟩ :=
            mappings member members (depth - 1) shownInner (by omega) (by omega)
          refine ⟨rest, ?_, below⟩
          have opening :
              Opening (separated (memberParts (member :: members)) ++ .mappingClose :: more) :=
            ((member.1.opening _).separated _).append _
          have step := readValue_mappingOpen fuel room place shownInner opening
          rw [values] at step
          exact step

theorem readsForms (fuel : Nat) : ReadsForms fuel ∧ ReadsItems fuel ∧ ReadsMembers fuel := by
  induction fuel with
  | zero =>
      refine ⟨?_, ?_, ?_⟩
      · intro form _ _ _ _ _ _ enough
        obtain ⟨first, others, shape, _⟩ := form.opening
        simp [shape] at enough
      · intro _ _ _ _ _ _ _ _ enough
        simp at enough
      · intro _ _ _ _ _ _ _ _ enough
        simp at enough
  | succ fuel inductionHypothesis =>
      obtain ⟨forms, lists, mappings⟩ := inductionHypothesis
      exact ⟨readsForms_succ lists mappings, readsItems_succ forms lists,
        readsMembers_succ forms mappings⟩

/-! ### What is read is a form -/

-- A value on its own is read at every depth, but the depth of a form is below the one it is read
-- at only if that is positive.

/-- With some fuel, only forms are read as values. -/
def FormsOnly (fuel : Nat) : Prop :=
  ∀ {depth : Nat} {lexemes rest : List Lexeme} {spellings : List Spelling} {last : Token}
    {value : Value},
    readValue fuel depth lexemes = .ok (value, rest) → Shows lexemes spellings last →
    last.IsEnd → 0 < depth →
      ∃ (form : Form) (more : List Spelling), spellings = form.spellings ++ more ∧
        Shows rest more last ∧ form.depth < depth ∧ form.value = value

def ItemsOnly (fuel : Nat) : Prop :=
  ∀ {depth : Nat} {lexemes rest : List Lexeme} {spellings : List Spelling} {last : Token}
    {values : List Value},
    readItems fuel depth lexemes = .ok (values, rest) → Shows lexemes spellings last →
    last.IsEnd → 0 < depth →
      ∃ (items : List Form) (more : List Spelling),
        spellings = separated (itemParts items) ++ .listClose :: more ∧
        Shows rest more last ∧ items ≠ [] ∧ itemsDepth items < depth ∧ itemValues items = values

def MembersOnly (fuel : Nat) : Prop :=
  ∀ {depth : Nat} {lexemes rest : List Lexeme} {spellings : List Spelling} {last : Token}
    {read : List (String × Value)},
    readEntries fuel depth lexemes = .ok (read, rest) → Shows lexemes spellings last →
    last.IsEnd → 0 < depth →
      ∃ (members : List (Name × Form)) (more : List Spelling),
        spellings = separated (memberParts members) ++ .mappingClose :: more ∧
        Shows rest more last ∧ members ≠ [] ∧ membersDepth members < depth ∧
        entries members = read

theorem exists_of_bind_eq_ok {ε α β : Type} {outcome : Except ε α} {next : α → Except ε β}
    {result : β} (binds : outcome >>= next = .ok result) :
    ∃ value, outcome = .ok value ∧ next value = .ok result := by
  cases outcome with
  | error failure => cases binds
  | ok value => exact ⟨value, rfl, binds⟩

section

variable {lexemes rest : List Lexeme} {spellings : List Spelling} {last : Token}

/-- The mark that a separator was read from. -/
def Separator.spelling (closing : Spelling) : Separator → Spelling
  | .close => closing
  | .more => .comma

theorem exists_of_afterItem {separator : Separator}
    (reads : afterItem lexemes = .ok (separator, rest)) (shown : Shows lexemes spellings last)
    (isEnd : last.IsEnd) :
    ∃ more, spellings = separator.spelling .listClose :: more ∧ Shows rest more last := by
  unfold afterItem at reads
  split at reads <;> cases reads
  · exact shown.exists_mark isEnd rfl
  · exact shown.exists_mark isEnd rfl

theorem exists_of_afterEntry {separator : Separator}
    (reads : afterEntry lexemes = .ok (separator, rest)) (shown : Shows lexemes spellings last)
    (isEnd : last.IsEnd) :
    ∃ more, spellings = separator.spelling .mappingClose :: more ∧ Shows rest more last := by
  unfold afterEntry at reads
  split at reads <;> cases reads
  · exact shown.exists_mark isEnd rfl
  · exact shown.exists_mark isEnd rfl

theorem exists_of_readKey {key : String} (reads : readKey lexemes = .ok (key, rest))
    (shown : Shows lexemes spellings last) (isEnd : last.IsEnd) :
    ∃ (name : Name) (more : List Spelling),
      spellings = name.spelling :: .colon :: more ∧ Shows rest more last ∧
        name.content = key := by
  unfold readKey at reads
  split at reads <;> cases reads
  obtain ⟨spelling, others, rfl, spells, shownColon⟩ := shown.exists_spelling isEnd id
  obtain ⟨more, rfl, below⟩ := shownColon.exists_mark isEnd rfl
  exact ⟨⟨spelling, key, spells⟩, more, rfl, below, rfl⟩

theorem exists_scalar {token : Token} {place : Place} {value : Value} {depth : Nat}
    (positive : 0 < depth) (spells : token.value? = some value)
    (shown : Shows (⟨place, token⟩ :: rest) spellings last) (isEnd : last.IsEnd) :
    ∃ (form : Form) (more : List Spelling), spellings = form.spellings ++ more ∧
      Shows rest more last ∧ form.depth < depth ∧ form.value = value := by
  have inner : ¬ token.IsEnd := by
    cases token <;> first | exact id | cases spells
  obtain ⟨spelling, more, rfl, rfl, below⟩ := shown.exists_spelling isEnd inner
  exact ⟨.scalar ⟨spelling, value, spells⟩, more, rfl, below, positive, rfl⟩

end

theorem itemsOnly_succ {fuel : Nat} (forms : FormsOnly fuel) (others : ItemsOnly fuel) :
    ItemsOnly (fuel + 1) := by
  intro depth lexemes rest spellings last values reads shown isEnd positive
  rw [readItems] at reads
  obtain ⟨⟨first, middle⟩, readsFirst, reads⟩ := exists_of_bind_eq_ok reads
  obtain ⟨item, left, rfl, shownMiddle, shallow, rfl⟩ := forms readsFirst shown isEnd positive
  obtain ⟨⟨separator, inner⟩, separates, reads⟩ := exists_of_bind_eq_ok reads
  obtain ⟨more, rfl, shownInner⟩ := exists_of_afterItem separates shownMiddle isEnd
  cases separator with
  | close =>
      cases reads
      refine ⟨[item], more, rfl, shownInner, List.cons_ne_nil _ _, ?_, rfl⟩
      simpa [itemsDepth] using shallow
  | more =>
      obtain ⟨⟨rest, after⟩, readsRest, ⟨⟩⟩ := exists_of_bind_eq_ok reads
      obtain ⟨items, more, rfl, below, notNil, itemsShallow, rfl⟩ :=
        others readsRest shownInner isEnd positive
      cases items with
      | nil => exact absurd rfl notNil
      | cons next items =>
          refine ⟨item :: next :: items, more, ?_, below, List.cons_ne_nil _ _,
            Nat.max_lt.mpr ⟨shallow, itemsShallow⟩, rfl⟩
          rw [separated_itemParts, List.append_assoc]
          rfl

theorem membersOnly_succ {fuel : Nat} (forms : FormsOnly fuel) (others : MembersOnly fuel) :
    MembersOnly (fuel + 1) := by
  intro depth lexemes rest spellings last read reads shown isEnd positive
  rw [readEntries] at reads
  obtain ⟨⟨key, afterKey⟩, readsKey, reads⟩ := exists_of_bind_eq_ok reads
  obtain ⟨name, left, rfl, shownValue, rfl⟩ := exists_of_readKey readsKey shown isEnd
  obtain ⟨⟨first, middle⟩, readsFirst, reads⟩ := exists_of_bind_eq_ok reads
  obtain ⟨form, left, rfl, shownMiddle, shallow, rfl⟩ := forms readsFirst shownValue isEnd positive
  obtain ⟨⟨separator, inner⟩, separates, reads⟩ := exists_of_bind_eq_ok reads
  obtain ⟨more, rfl, shownInner⟩ := exists_of_afterEntry separates shownMiddle isEnd
  cases separator with
  | close =>
      cases reads
      refine ⟨[(name, form)], more, rfl, shownInner, List.cons_ne_nil _ _, ?_, rfl⟩
      simpa [membersDepth] using shallow
  | more =>
      obtain ⟨⟨rest, after⟩, readsRest, ⟨⟩⟩ := exists_of_bind_eq_ok reads
      obtain ⟨members, more, rfl, below, notNil, membersShallow, rfl⟩ :=
        others readsRest shownInner isEnd positive
      cases members with
      | nil => exact absurd rfl notNil
      | cons next members =>
          refine ⟨(name, form) :: next :: members, more, ?_, below, List.cons_ne_nil _ _,
            Nat.max_lt.mpr ⟨shallow, membersShallow⟩, rfl⟩
          rw [separated_memberParts, List.cons_append, List.cons_append, List.append_assoc]
          rfl

theorem formsOnly_succ {fuel : Nat} (lists : ItemsOnly fuel) (mappings : MembersOnly fuel) :
    FormsOnly (fuel + 1) := by
  intro depth lexemes rest spellings last value reads shown isEnd positive
  unfold readValue at reads
  dsimp only at reads
  split at reads
  · cases reads
    exact exists_scalar positive rfl shown isEnd
  · cases reads
    exact exists_scalar positive rfl shown isEnd
  · cases reads
    exact exists_scalar positive rfl shown isEnd
  · cases reads
    exact exists_scalar positive rfl shown isEnd
  · obtain ⟨inner, rfl, shownInner⟩ := shown.exists_mark isEnd rfl
    split at reads
    · cases reads
    rename_i room
    split at reads
    · cases reads
      obtain ⟨more, rfl, below⟩ := shownInner.exists_mark isEnd rfl
      exact ⟨.list [], more, rfl, below, Nat.not_le.mp room, rfl⟩
    · cases reads
    · obtain ⟨⟨values, after⟩, readsItems, ⟨⟩⟩ := exists_of_bind_eq_ok reads
      obtain ⟨items, more, rfl, below, _, shallow, rfl⟩ :=
        lists readsItems shownInner isEnd (by omega)
      refine ⟨.list items, more, ?_, below, Nat.add_lt_of_lt_sub shallow, rfl⟩
      rw [Form.spellings, List.cons_append, List.append_assoc]
      rfl
  · obtain ⟨inner, rfl, shownInner⟩ := shown.exists_mark isEnd rfl
    split at reads
    · cases reads
    rename_i room
    split at reads
    · cases reads
      obtain ⟨more, rfl, below⟩ := shownInner.exists_mark isEnd rfl
      exact ⟨.mapping [], more, rfl, below, Nat.not_le.mp room, rfl⟩
    · cases reads
    · obtain ⟨⟨entries, after⟩, readsEntries, ⟨⟩⟩ := exists_of_bind_eq_ok reads
      obtain ⟨members, more, rfl, below, _, shallow, rfl⟩ :=
        mappings readsEntries shownInner isEnd (by omega)
      refine ⟨.mapping members, more, ?_, below, Nat.add_lt_of_lt_sub shallow, rfl⟩
      rw [Form.spellings, List.cons_append, List.append_assoc]
      rfl
  all_goals cases reads

theorem formsOnly (fuel : Nat) : FormsOnly fuel ∧ ItemsOnly fuel ∧ MembersOnly fuel := by
  induction fuel with
  | zero =>
      refine ⟨?_, ?_, ?_⟩
      · intro _ _ _ _ _ _ reads
        cases reads
      · intro _ _ _ _ _ _ reads
        cases reads
      · intro _ _ _ _ _ _ reads
        cases reads
  | succ fuel inductionHypothesis =>
      obtain ⟨forms, lists, mappings⟩ := inductionHypothesis
      exact ⟨formsOnly_succ lists mappings, itemsOnly_succ forms lists,
        membersOnly_succ forms mappings⟩

/-! ### Whole documents -/

/-- Lists and mappings nest at most this deep. -/
def maxDepth : Nat := 127

theorem read_of_spread {form : Form} {text : String}
    (spread : Spread AllBlank form.spellings text.toList) (shallow : form.depth ≤ maxDepth) :
    read text = .ok form.value := by
  have tokens := spread.lexemes_eq form.isChain_spellings (Nat.le_refl _) .start
  have shown : Shows (lexemes text.toList.length .start text.toList)
      (form.spellings ++ []) .finish := by
    rw [List.append_nil]
    exact tokens
  have enough : 2 * form.spellings.length ≤
      2 * (lexemes text.toList.length .start text.toList).length + 2 := by
    have sameLength := congrArg List.length tokens
    simp only [List.length_map, List.length_append] at sameLength
    omega
  obtain ⟨rest, reads, shownRest⟩ :=
    (readsForms _).1 form 128 shown (Nat.lt_succ_of_le shallow) enough
  obtain ⟨⟨_, _⟩, _, rfl, rfl, _⟩ := List.map_eq_cons_iff.mp shownRest
  rw [read, readWhole, reads]
  rfl

theorem exists_spread_of_read {text : String} {value : Value} (reads : read text = .ok value) :
    ∃ form : Form, Spread AllBlank form.spellings text.toList ∧ form.depth ≤ maxDepth ∧
      form.value = value := by
  obtain ⟨spellings, last, shown, isEnd, spread⟩ :=
    exists_spread text.toList.length .start (Nat.le_refl text.toList.length)
  obtain ⟨⟨found, rest⟩, readsValue, reads⟩ := exists_of_bind_eq_ok reads
  obtain ⟨form, more, rfl, shownRest, shallow, rfl⟩ :=
    (formsOnly _).1 readsValue shown isEnd (by decide)
  dsimp only at reads
  split at reads
  · cases reads
    cases more with
    | nil =>
        obtain ⟨rfl, _⟩ := List.cons.inj shownRest
        rw [List.append_nil] at spread
        exact ⟨form, spread rfl, Nat.le_of_lt_succ shallow, rfl⟩
    | cons spelling more =>
        obtain ⟨same, _⟩ := List.cons.inj shownRest
        refine absurd ?_ spelling.not_isEnd
        rw [← same]
        trivial
  · cases reads

/-- The strict reader accepts the texts that spell a form with blanks between the tokens, and
yields the value of the form. -/
theorem read_eq_ok_iff (text : String) (value : Value) :
    read text = .ok value ↔
      ∃ form : Form, Spread AllBlank form.spellings text.toList ∧ form.depth ≤ maxDepth ∧
        form.value = value := by
  constructor
  · exact exists_spread_of_read
  · rintro ⟨form, spread, shallow, rfl⟩
    exact read_of_spread spread shallow

/-- All forms of a text nest equally deep. -/
theorem depth_eq_of_spread {form other : Form} {text : List Char}
    (spread : Spread AllBlank form.spellings text)
    (otherSpread : Spread AllBlank other.spellings text) : form.depth = other.depth := by
  have tokens := spread.lexemes_eq form.isChain_spellings (Nat.le_refl _) .start
  have otherTokens := otherSpread.lexemes_eq other.isChain_spellings (Nat.le_refl _) .start
  have nests := form.nests_spellings 0 [.finish]
  have otherNests := other.nests_spellings 0 [.finish]
  have finish : nesting 0 [.finish] = 0 := rfl
  rw [← tokens, finish] at nests
  rw [← otherTokens, nests, finish] at otherNests
  omega

theorem read_of_reads {form : Form} {text : String} {value : Value}
    (spread : Spread AllBlank form.spellings text.toList) (reads : read text = .ok value) :
    form.depth ≤ maxDepth ∧ form.value = value := by
  obtain ⟨other, otherSpread, shallow, _⟩ := exists_spread_of_read reads
  have formShallow : form.depth ≤ maxDepth :=
    (depth_eq_of_spread spread otherSpread).trans_le shallow
  rw [read_of_spread spread formShallow] at reads
  exact ⟨formShallow, Except.ok.inj reads⟩

end BotConfig.Strict
