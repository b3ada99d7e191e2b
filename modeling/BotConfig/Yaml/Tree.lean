import BotConfig.Text.Quoted
import BotConfig.Yaml.Event
import BotConfig.Yaml.Scalar

/-!
The value of an indented document.

Events are turned into a value from the first one on.  An alias is followed to the events of its
anchor, so a document may stand for a value much larger than itself; the number of aliases followed
and the depth of the value are limited.
-/

namespace BotConfig.Yaml

/-- What can be wrong with an indented document. -/
inductive Fault where
  | flaw (flaw : Flaw)
  | nestedTooDeep (mark : Mark)
  | wrongValue (path : Option String) (problem : String) (mark : Mark)
  | repeatedTooOften
  | severalDocuments
  | unfinished

/-- The mark of a fault, if it has one. -/
def Fault.mark? : Fault → Option Mark
  | .flaw found => some found.mark
  | .nestedTooDeep mark => some mark
  | .wrongValue _ _ mark => some mark
  | _ => none

/-- The wording of a fault, with its place. -/
def Fault.message (fault : Fault) : String :=
  let placed (text : String) (mark : Mark) : String :=
    if mark.isOrigin then text else text ++ " at " ++ mark.text
  match fault with
  | .flaw found => found.message
  | .nestedTooDeep mark => placed "recursion limit exceeded" mark
  | .wrongValue path problem mark =>
      let path := path.getD "."
      placed (if path = "." then problem else path ++ ": " ++ problem) mark
  | .repeatedTooOften => "repetition limit exceeded"
  | .severalDocuments =>
      "deserializing from YAML containing more than one document is not supported"
  | .unfinished => "EOF while parsing a value"

/-- The path of an item of a list. The document itself is written as a point. -/
def itemPath (path : Option String) (index : Nat) : String :=
  path.getD "." ++ "[" ++ toString index ++ "]"

/-- The path of the value of an entry; a key that is no scalar is written as a question mark. -/
def entryPath (path key : Option String) : String :=
  let name := key.getD "?"
  match path with
  | none => name
  | some path => path ++ "." ++ name

/-- How far the events of a document have been turned into a value. -/
structure Walk where
  rest : List Event
  followed : Nat

/-- What stays the same while a document is turned into a value. -/
structure Whole where
  events : List Event
  /-- The number of events. -/
  size : Nat := events.length
  /-- The flaw that ended the events. -/
  flaw : Option Flaw

/-- A step of turning events into a value. -/
abbrev Build := ReaderT Whole (StateT Walk (Except Fault))

namespace Build

/-- The number of aliases that may be followed for each event. -/
def aliasesPerEvent : Nat := 100

/-- The depth of lists and mappings that a document may have. -/
def depthLimit : Nat := 128

/-- The next event, which stays. -/
def peek : Build Event := do
  match (← get).rest with
  | event :: _ => return event
  | [] =>
      match (← read).flaw with
      | some flaw => throw (.flaw flaw)
      | none => throw .unfinished

/-- Move over an event. -/
def skip : Build Unit := modify fun walk => { walk with rest := walk.rest.tail }

/-- The next event, which is moved over. -/
def next : Build Event := do
  let event ← peek
  skip
  return event

/-- The events from the last one on that has an anchor of the given number. -/
def fromAnchor? (number : Nat) : List Event → Option (List Event)
  | [] => none
  | event :: rest =>
      match fromAnchor? number rest with
      | some found => some found
      | none => if event.anchor == some number then some (event :: rest) else none

/-- Read at the anchor of a number instead of here. -/
def atAnchor {α : Type} (number : Nat) (build : Build α) : Build α := do
  let events := (← read).events
  modify fun walk => { walk with followed := walk.followed + 1 }
  let walk ← get
  if aliasesPerEvent * (← read).size < walk.followed then throw .repeatedTooOften
  let some target := fromAnchor? number events | throw .unfinished
  set { walk with rest := target }
  let result ← build
  modify fun after => { after with rest := walk.rest }
  return result

/-- Fail at a value. -/
def fail {α : Type} (path : Option String) (mark : Mark) (problem : String) : Build α :=
  throw (.wrongValue path problem mark)

/-- Whether a tag is of the document's own making. Such tags are not understood. -/
def isLocal (tag : Option String) : Bool := (tag.bind (·.toList.head?)) == some '!'

/-- The common tag of a name. -/
def commonTag (name : String) : String := "tag:yaml.org,2002:" ++ name

/-- The value of a scalar. A tag may ask for one of four types; others make it a text. -/
def scalar (path : Option String) (mark : Mark) (tag : Option String) (content : String)
    (style : Style) : Build Value := do
  let wrong (expected : String) : Build Value :=
    fail path mark ("invalid value: string " ++ Text.quoted content ++ ", expected " ++ expected)
  let meaning : Scalar.Meaning → Build Value
    | .value value => return value
    | .outOfRange => fail path mark "JSON number out of range"
  match tag with
  | none =>
      match style with
      | .plain => meaning (Scalar.ofPlain content)
      | _ => return .text content
  | some tag =>
      if tag = commonTag "bool" then
        match Scalar.boolean? content with
        | some flag => return .boolean flag
        | none => wrong "a boolean"
      else if tag = commonTag "int" then
        match Scalar.ofInteger? content with
        | some whole => meaning whole
        | none => wrong "an integer"
      else if tag = commonTag "float" then
        match Scalar.ofReal? content with
        | some number => return number
        | none => wrong "a float"
      else if tag = commonTag "null" then
        if Scalar.isNull content then return .null else wrong "null"
      else return .text content

/-- The items of a list up to its end. -/
def items (item : String → Build Value) (path : Option String) : Nat → Nat → Build (List Value)
  | 0, _ => return []
  | fuel + 1, index => do
      match (← peek).kind with
      | .listEnd =>
          skip
          return []
      | _ =>
          let first ← item (itemPath path index)
          return first :: (← items item path fuel (index + 1))

/-- A key of a mapping, which must be a scalar, and its name in paths, which aliases do not
have. -/
def key (path : Option String) : Build (String × Option String) := do
  let wrong (event : Event) (found : String) : Build String :=
    fail path event.mark ("invalid type: " ++ found ++ ", expected a string key")
  let direct (event : Event) : Build String :=
    match event.kind with
    | .scalar _ content _ => return content
    | .listStart _ => wrong event "sequence"
    | _ => wrong event "map"
  let event ← next
  match event.kind with
  | .alias number => return (← atAnchor number (do direct (← next)), none)
  | .scalar _ content _ => return (content, some content)
  | _ => return (← direct event, none)

/-- The entries of a mapping up to its end. -/
def entries (value : String → Build Value) (path : Option String) :
    Nat → Build (List (String × Value))
  | 0 => return []
  | fuel + 1 => do
      match (← peek).kind with
      | .mappingEnd =>
          skip
          return []
      | _ =>
          let (key, name) ← key path
          let content ← value (entryPath path name)
          return (key, content) :: (← entries value path fuel)

/-- A value that is no alias. Lists and mappings need a way to build what they hold. -/
def node (inner : Option (String → Build Value)) (path : Option String) : Build Value := do
  let event ← next
  let fuel := (← read).size
  let collection (tag : Option String) (build : (String → Build Value) → Build Value) :
      Build Value :=
    if isLocal tag then fail path event.mark "invalid type: enum, expected any valid JSON value"
    else
      match inner with
      | none => throw (.nestedTooDeep event.mark)
      | some inner => build inner
  match event.kind with
  | .scalar tag content style =>
      if isLocal tag then fail path event.mark "invalid type: enum, expected any valid JSON value"
      else scalar path event.mark tag content style
  | .listStart tag => collection tag fun inner => return .list (← items inner path fuel 0)
  | .mappingStart tag =>
      collection tag fun inner => return .mapping (Fields.ofEntries (← entries inner path fuel))
  | _ => throw .unfinished

/-- A value or an alias of one. -/
def nodeOrAlias (inner : Option (String → Build Value)) (path : Option String) : Build Value := do
  match (← peek).kind with
  | .alias number =>
      skip
      atAnchor number (node inner path)
  | _ => node inner path

/-- A value whose lists and mappings may be nested so deep. -/
def value : Nat → Option String → Build Value
  | 0, path => nodeOrAlias none path
  | depth + 1, path => nodeOrAlias (some fun path => value depth (some path)) path

end Build

/-- Read an indented document. A document without events is null. -/
def read (text : String) : Except Fault Value := do
  let outline := Outline.ofText text
  let whole : Whole := { events := outline.events, flaw := outline.flaw }
  let value ←
    match outline.events, outline.flaw with
    | [], none => pure .null
    | events, _ =>
        let (value, _) ← ((Build.value Build.depthLimit none).run whole).run ⟨events, 0⟩
        pure value
  if let some flaw := outline.flaw then throw (.flaw flaw)
  if outline.continues then throw .severalDocuments
  return value

end BotConfig.Yaml
