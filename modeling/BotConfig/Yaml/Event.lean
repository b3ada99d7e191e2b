import BotConfig.Yaml.Lexer

/-!
The events of a document: its scalars, and where its lists and mappings start and end.

A text is read up to the end of its first document.  Events that were read before a flaw shows are
kept with the flaw, so that whatever is wrong with their content can be reported first.
-/

namespace BotConfig.Yaml

/-- What may stand before a node: the name that aliases use, and the full tag. -/
structure Properties where
  anchor : Option String
  tag : Option String

/-- No properties. -/
def Properties.none : Properties := ⟨.none, .none⟩

/-- The kinds of event. An alias is given by the number of its anchor. -/
inductive EventKind where
  | alias (number : Nat)
  | scalar (tag : Option String) (content : String) (style : Style)
  | listStart (tag : Option String)
  | listEnd
  | mappingStart (tag : Option String)
  | mappingEnd

/-- An event, the mark where it starts and the number of its anchor. -/
structure Event where
  kind : EventKind
  mark : Mark
  anchor : Option Nat

/-- What a text comes to: the events of its first document, the flaw that ended the reading, and
whether anything follows the document. -/
structure Outline where
  events : List Event
  flaw : Option Flaw
  continues : Bool

/-- How far the events of a text have been read. The last event comes first. -/
structure Progress where
  lexer : Lexer
  events : List Event
  anchors : List (String × Nat)
  expansions : List (String × String)

/-- A step of reading events. What was read before a flaw stays. -/
abbrev Recognise := ExceptT Flaw (StateM Progress)

namespace Recognise

/-- Run a step on the tokens. -/
def onTokens {α : Type} (scan : Scan α) : Recognise α := do
  let progress ← get
  match scan.run progress.lexer with
  | .ok (result, lexer) =>
      set { progress with lexer }
      return result
  | .error flaw => throw flaw

/-- The next token, which stays waiting. -/
def peek : Recognise Token := onTokens Scan.peekToken

/-- Take the next token. -/
def take : Recognise Unit := onTokens Scan.takeToken

/-- Whether the next token is of some kind. -/
def sees (property : TokenKind → Bool) : Recognise Bool := return property (← peek).kind

/-- Fail at a mark. -/
def fail {α : Type} (context : Option Context) (problem : String) (mark : Mark) : Recognise α :=
  throw ⟨problem, mark, 0, context⟩

/-- Fail at a mark while reading something that started earlier. -/
def failIn {α : Type} (activity : String) (start : Mark) (problem : String) (mark : Mark) :
    Recognise α :=
  fail (some ⟨activity, start⟩) problem mark

/-- Add an event. -/
def emit (kind : EventKind) (mark : Mark) (anchor : Option Nat) : Recognise Unit :=
  modify fun progress => { progress with events := ⟨kind, mark, anchor⟩ :: progress.events }

/-- Add a scalar that is left out. -/
def emitEmpty (mark : Mark) : Recognise Unit := emit (.scalar none "" .plain) mark none

/-- Add an event of a node with properties. The number of an anchor is the count of anchor names
known before it, also when its own name is among them. -/
def emitNode (properties : Properties) (kind : Option String → EventKind) (mark : Mark) :
    Recognise Unit := do
  match properties.anchor with
  | none => emit (kind properties.tag) mark none
  | some name =>
      let known := (← get).anchors
      let others := known.filter (·.1 != name)
      modify fun progress => { progress with anchors := (name, known.length) :: others }
      emit (kind properties.tag) mark (some known.length)

/-- Add an alias of an anchor that came before. -/
def emitAlias (name : String) (mark : Mark) : Recognise Unit := do
  match (← get).anchors.lookup name with
  | some number => emit (.alias number) mark none
  | none => fail none "unknown anchor" mark

/-! ### Nodes -/

/-- The full form of a tag. A handle stands for the start of the tag, and a tag without a handle
is complete. -/
def fullTag (handle suffix : String) (start mark : Mark) : Recognise String := do
  if handle.isEmpty then return suffix
  match (← get).expansions.lookup handle with
  | some expansion => return expansion ++ suffix
  | none => failIn "while parsing a node" start "found undefined tag handle" mark

/-- The properties of a node, in either order, and the mark where the node starts. -/
def properties : Recognise (Properties × Mark) := do
  let token ← peek
  let start := token.start
  match token.kind with
  | .anchor name =>
      take
      let next ← peek
      match next.kind with
      | .tag handle suffix =>
          take
          let _ ← peek
          return (⟨some name, some (← fullTag handle suffix start next.start)⟩, start)
      | _ => return (⟨some name, none⟩, start)
  | .tag handle suffix =>
      take
      let next ← peek
      match next.kind with
      | .anchor name =>
          take
          let _ ← peek
          return (⟨some name, some (← fullTag handle suffix start start)⟩, start)
      | _ => return (⟨none, some (← fullTag handle suffix start start)⟩, start)
  | _ => return (.none, start)

/-- The tag of a single exclamation mark says of a scalar that it is untagged. -/
def scalarProperties (properties : Properties) : Properties :=
  if properties.tag == some "!" then { properties with tag := none } else properties

/-- Whether a token ends an item of a block list. -/
def endsItem : TokenKind → Bool
  | .blockEntry | .blockEnd => true
  | _ => false

/-- Whether a token ends an item of a block list that is not indented. -/
def endsLooseItem : TokenKind → Bool
  | .blockEntry | .key | .value | .blockEnd => true
  | _ => false

/-- Whether a token ends a key or a value of a block mapping. -/
def endsEntry : TokenKind → Bool
  | .key | .value | .blockEnd => true
  | _ => false

/-- Whether a token ends a value in a flow list. -/
def endsFlowItem : TokenKind → Bool
  | .flowEntry | .flowSequenceEnd => true
  | _ => false

/-- Whether a token ends a value in a flow mapping. -/
def endsFlowValue : TokenKind → Bool
  | .flowEntry | .flowMappingEnd => true
  | _ => false

/-- Whether a token is a colon. -/
def isValue : TokenKind → Bool
  | .value => true
  | _ => false

mutual

/-- A node. Block collections, and block lists that are not indented, stand only where they are
allowed. -/
def node (block loose : Bool) : Nat → Recognise Unit
  | 0 => return ()
  | fuel + 1 => do
      let token ← peek
      if let .alias name := token.kind then
        take
        emitAlias name token.start
        return
      let (properties, start) ← properties
      let token ← peek
      match token.kind, block, loose with
      | .blockEntry, _, true =>
          emitNode properties .listStart start
          looseItems fuel
      | .scalar content style, _, _ =>
          take
          emitNode (scalarProperties properties) (.scalar · content style) start
      | .flowSequenceStart, _, _ =>
          emitNode properties .listStart start
          take
          flowItems token.start true fuel
      | .flowMappingStart, _, _ =>
          emitNode properties .mappingStart start
          take
          flowEntries token.start true fuel
      | .blockSequenceStart, true, _ =>
          emitNode properties .listStart start
          take
          blockItems token.start fuel
      | .blockMappingStart, true, _ =>
          emitNode properties .mappingStart start
          take
          blockEntries token.start fuel
      | _, _, _ =>
          if properties.anchor.isSome || properties.tag.isSome then
            emitNode properties (.scalar · "" .plain) start
          else
            failIn (if block then "while parsing a block node" else "while parsing a flow node")
              start "did not find expected node content" token.start

/-- The items of an indented block list. -/
def blockItems (start : Mark) : Nat → Recognise Unit
  | 0 => return ()
  | fuel + 1 => do
      let token ← peek
      match token.kind with
      | .blockEntry =>
          take
          if ← sees endsItem then emitEmpty token.finish else node true false fuel
          blockItems start fuel
      | .blockEnd =>
          take
          emit .listEnd token.start none
      | _ =>
          failIn "while parsing a block collection" start "did not find expected '-' indicator"
            token.start

/-- The items of a block list that is not indented. -/
def looseItems : Nat → Recognise Unit
  | 0 => return ()
  | fuel + 1 => do
      let token ← peek
      match token.kind with
      | .blockEntry =>
          take
          if ← sees endsLooseItem then emitEmpty token.finish else node true false fuel
          looseItems fuel
      | _ => emit .listEnd token.start none

/-- The entries of a block mapping. -/
def blockEntries (start : Mark) : Nat → Recognise Unit
  | 0 => return ()
  | fuel + 1 => do
      let token ← peek
      match token.kind with
      | .key =>
          take
          if ← sees endsEntry then emitEmpty token.finish else node true true fuel
          blockValue fuel
          blockEntries start fuel
      | .blockEnd =>
          take
          emit .mappingEnd token.start none
      | _ =>
          failIn "while parsing a block mapping" start "did not find expected key" token.start

/-- The value of an entry of a block mapping. -/
def blockValue : Nat → Recognise Unit
  | 0 => return ()
  | fuel + 1 => do
      let token ← peek
      match token.kind with
      | .value =>
          take
          if ← sees endsEntry then emitEmpty token.finish else node true true fuel
      | _ => emitEmpty token.start

/-- The items of a flow list. -/
def flowItems (start : Mark) (first : Bool) : Nat → Recognise Unit
  | 0 => return ()
  | fuel + 1 => do
      let token ← peek
      let token ←
        match token.kind, first with
        | .flowSequenceEnd, _ | _, true => pure token
        | .flowEntry, false =>
            take
            peek
        | _, false =>
            failIn "while parsing a flow sequence" start "did not find expected ',' or ']'"
              token.start
      match token.kind with
      | .flowSequenceEnd =>
          take
          emit .listEnd token.start none
      | .key =>
          take
          emit (.mappingStart none) token.start none
          flowPair fuel
          flowItems start false fuel
      | _ =>
          node false false fuel
          flowItems start false fuel

/-- A mapping of one entry that stands in a flow list without braces. -/
def flowPair : Nat → Recognise Unit
  | 0 => return ()
  | fuel + 1 => do
      let token ← peek
      if isValue token.kind || endsFlowItem token.kind then
        take
        emitEmpty token.finish
      else node false false fuel
      flowPairValue fuel
      emit .mappingEnd (← peek).start none

/-- The value of a mapping of one entry. -/
def flowPairValue : Nat → Recognise Unit
  | 0 => return ()
  | fuel + 1 => do
      if ← sees isValue then
        take
        if !(← sees endsFlowItem) then
          node false false fuel
          return
      emitEmpty (← peek).start

/-- The entries of a flow mapping. -/
def flowEntries (start : Mark) (first : Bool) : Nat → Recognise Unit
  | 0 => return ()
  | fuel + 1 => do
      let token ← peek
      let token ←
        match token.kind, first with
        | .flowMappingEnd, _ | _, true => pure token
        | .flowEntry, false =>
            take
            peek
        | _, false =>
            failIn "while parsing a flow mapping" start "did not find expected ',' or '\x7d'"
              token.start
      match token.kind with
      | .flowMappingEnd =>
          take
          emit .mappingEnd token.start none
      | .key =>
          take
          let next ← peek
          if isValue next.kind || endsFlowValue next.kind then emitEmpty next.start
          else node false false fuel
          flowValue fuel
          flowEntries start false fuel
      | _ =>
          node false false fuel
          emitEmpty (← peek).start
          flowEntries start false fuel

/-- The value of an entry of a flow mapping. -/
def flowValue : Nat → Recognise Unit
  | 0 => return ()
  | fuel + 1 => do
      if ← sees isValue then
        take
        if !(← sees endsFlowValue) then
          node false false fuel
          return
      emitEmpty (← peek).start

end

/-! ### Documents -/

/-- The tag handles that need no directive. -/
def commonExpansions : List (String × String) := [("!", "!"), ("!!", "tag:yaml.org,2002:")]

/-- Directives before a document. A version may be given once, and a handle too. -/
def directives : Nat → Bool → Recognise Unit
  | 0, _ => return ()
  | fuel + 1, versioned => do
      let token ← peek
      match token.kind with
      | .versionDirective major minor =>
          if versioned then fail none "found duplicate %YAML directive" token.start
          if major ≠ 1 || (minor ≠ 1 && minor ≠ 2) then
            fail none "found incompatible YAML document" token.start
          take
          directives fuel true
      | .tagDirective handle expansion =>
          let known := (← get).expansions
          if (known.lookup handle).isSome then
            fail none "found duplicate %TAG directive" token.start
          modify fun progress => { progress with expansions := known ++ [(handle, expansion)] }
          take
          directives fuel versioned
      | _ => return ()

/-- Whether a token starts a document that needs a start marker. -/
def startsExplicit : TokenKind → Bool
  | .versionDirective .. | .tagDirective .. | .documentStart => true
  | _ => false

/-- Whether a token ends an empty document. -/
def endsDocument : TokenKind → Bool
  | .versionDirective .. | .tagDirective .. | .documentStart | .documentEnd | .streamEnd => true
  | _ => false

/-- Move over end markers, and tell whether anything follows them. -/
def follows : Nat → Recognise Bool
  | 0 => return false
  | fuel + 1 => do
      match (← peek).kind with
      | .documentEnd =>
          take
          follows fuel
      | .streamEnd => return false
      | _ => return true

/-- Whether the text is at its end. -/
def atEnd : TokenKind → Bool
  | .streamEnd => true
  | _ => false

/-- The first document of a text. Tells whether anything follows it. -/
def document (fuel : Nat) : Recognise Bool := do
  let _ ← peek
  take
  if ← sees atEnd then return false
  let addCommon : Recognise Unit := modify fun progress =>
    { progress with expansions := progress.expansions ++ commonExpansions }
  if ← sees startsExplicit then
    directives fuel false
    addCommon
    let token ← peek
    match token.kind with
    | .documentStart => take
    | _ => fail none "did not find expected <document start>" token.start
    let token ← peek
    if endsDocument token.kind then emitEmpty token.start else node true false fuel
  else
    addCommon
    node true false fuel
  let _ ← peek
  tryCatch (follows fuel) fun _ => return true

end Recognise

/-- The byte offset of the first character that no document may hold. -/
def disallowedFrom? : Nat → List Char → Option Nat
  | _, [] => none
  | offset, c :: rest =>
      if isAllowed c then disallowedFrom? (offset + c.utf8Size) rest else some offset

/-- The outline of a text. A character that is not allowed anywhere in it is found first. -/
def Outline.ofText (text : String) : Outline :=
  let characters := text.toList
  match disallowedFrom? 0 characters with
  | some offset =>
      ⟨[], some ⟨"control characters are not allowed", ⟨0, 0, 0⟩, offset, none⟩, false⟩
  | none =>
      let run := (Recognise.document (8 * characters.length + 16)).run
        ⟨Scan.initial characters, [], [], []⟩
      match Id.run run with
      | (.ok continues, progress) => ⟨progress.events.reverse, none, continues⟩
      | (.error flaw, progress) => ⟨progress.events.reverse, some flaw, false⟩

end BotConfig.Yaml
