import BotConfig.Strict.Lexeme

/-!
Reading strict documents.

The reader works on lexemes, so blanks between them cannot matter.  Of several entries with one
key the last one stays.  Lists and mappings nest at most 127 deep.
-/

namespace BotConfig.Strict

/-- The failure at a lexeme where something else was expected. -/
def failAt (fault : SyntaxFault) : List Lexeme → SyntaxFailure
  | [] => ⟨fault, .start⟩
  | lexeme :: _ => ⟨fault, lexeme.mark⟩

/-- A comma between items or entries is followed by another one. -/
inductive Separator where
  | close
  | more

/-- What follows a list item: the end of the list, or a comma and another item. -/
def afterItem : List Lexeme → Except SyntaxFailure (Separator × List Lexeme)
  | ⟨_, .listClose⟩ :: rest => .ok (.close, rest)
  | ⟨_, .comma⟩ :: ⟨mark, .listClose⟩ :: _ => .error ⟨.trailingComma, mark⟩
  | ⟨_, .comma⟩ :: rest => .ok (.more, rest)
  | ⟨mark, .finish⟩ :: _ => .error ⟨.endInList, mark⟩
  | other => .error (failAt .expectedListEnd other)

/-- What follows a mapping entry: the end of the mapping, or a comma and another entry. -/
def afterEntry : List Lexeme → Except SyntaxFailure (Separator × List Lexeme)
  | ⟨_, .mappingClose⟩ :: rest => .ok (.close, rest)
  | ⟨_, .comma⟩ :: ⟨mark, .mappingClose⟩ :: _ => .error ⟨.trailingComma, mark⟩
  | ⟨_, .comma⟩ :: rest => .ok (.more, rest)
  | ⟨mark, .finish⟩ :: _ => .error ⟨.endInMapping, mark⟩
  | other => .error (failAt .expectedMappingEnd other)

/-- The key of an entry and the colon after it. -/
def readKey : List Lexeme → Except SyntaxFailure (String × List Lexeme)
  | ⟨_, .text key⟩ :: ⟨_, .colon⟩ :: rest => .ok (key, rest)
  | ⟨_, .text _⟩ :: ⟨mark, .finish⟩ :: _ => .error ⟨.endInMapping, mark⟩
  | ⟨_, .text _⟩ :: other => .error (failAt .expectedColon other)
  | ⟨_, .broken true failure⟩ :: _ => .error failure
  | ⟨mark, .finish⟩ :: _ => .error ⟨.endInValue, mark⟩
  | other => .error (failAt .keyNotText other)

mutual

/-- One value. `depth` counts the lists and mappings that may still be opened, plus one. -/
def readValue : Nat → Nat → List Lexeme → Except SyntaxFailure (Value × List Lexeme)
  | 0, _, lexemes => .error (failAt .expectedValue lexemes)
  | fuel + 1, depth, lexemes =>
      match lexemes with
      | ⟨_, .null⟩ :: rest => .ok (.null, rest)
      | ⟨_, .boolean flag⟩ :: rest => .ok (.boolean flag, rest)
      | ⟨_, .number value⟩ :: rest => .ok (.number value, rest)
      | ⟨_, .text content⟩ :: rest => .ok (.text content, rest)
      | ⟨mark, .listOpen⟩ :: rest =>
          if depth ≤ 1 then .error ⟨.nestedTooDeep, mark⟩
          else
            match rest with
            | ⟨_, .listClose⟩ :: rest => .ok (.list [], rest)
            | ⟨mark, .finish⟩ :: _ => .error ⟨.endInList, mark⟩
            | rest => do
                let (items, rest) ← readItems fuel (depth - 1) rest
                return (.list items, rest)
      | ⟨mark, .mappingOpen⟩ :: rest =>
          if depth ≤ 1 then .error ⟨.nestedTooDeep, mark⟩
          else
            match rest with
            | ⟨_, .mappingClose⟩ :: rest => .ok (.mapping [], rest)
            | ⟨mark, .finish⟩ :: _ => .error ⟨.endInMapping, mark⟩
            | rest => do
                let (entries, rest) ← readEntries fuel (depth - 1) rest
                return (.mapping (Fields.ofEntries entries), rest)
      | ⟨_, .broken _ failure⟩ :: _ => .error failure
      | ⟨mark, .finish⟩ :: _ => .error ⟨.endInValue, mark⟩
      | other => .error (failAt .expectedValue other)

/-- The items of a list that is not empty, and its end. -/
def readItems : Nat → Nat → List Lexeme → Except SyntaxFailure (List Value × List Lexeme)
  | 0, _, lexemes => .error (failAt .expectedValue lexemes)
  | fuel + 1, depth, lexemes => do
      let (item, rest) ← readValue fuel depth lexemes
      match ← afterItem rest with
      | (.close, rest) => return ([item], rest)
      | (.more, rest) =>
          let (items, rest) ← readItems fuel depth rest
          return (item :: items, rest)

/-- The entries of a mapping that is not empty, in the order they stand, and its end. -/
def readEntries :
    Nat → Nat → List Lexeme → Except SyntaxFailure (List (String × Value) × List Lexeme)
  | 0, _, lexemes => .error (failAt .expectedValue lexemes)
  | fuel + 1, depth, lexemes => do
      let (key, rest) ← readKey lexemes
      let (value, rest) ← readValue fuel depth rest
      match ← afterEntry rest with
      | (.close, rest) => return ([(key, value)], rest)
      | (.more, rest) =>
          let (entries, rest) ← readEntries fuel depth rest
          return ((key, value) :: entries, rest)

end

/-- Nothing but the end of the text may follow the value of a document. -/
def readWhole (lexemes : List Lexeme) : Except SyntaxFailure Value := do
  let (value, rest) ← readValue (2 * lexemes.length + 2) 128 lexemes
  match rest with
  | ⟨_, .finish⟩ :: _ => return value
  | other => throw (failAt .trailingCharacters other)

/-- The value of a strict document. -/
def read (text : String) : Except SyntaxFailure Value :=
  readWhole (lexemes text.toList.length .start text.toList)

end BotConfig.Strict
