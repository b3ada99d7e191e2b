import BotConfig.Log
import BotConfig.Numeral
import BotConfig.Pattern.Reader
import BotConfig.Text.Classes

/-!
Filters of the log: how much of it is shown.

A filter is a list of directives, separated by commas: a level, a target, or `target=level`.  A
target may be followed by fields in brackets and braces.  Of all directives that are about an entry
the most specific one decides.
-/

namespace BotConfig.Log

/-- The number of all levels. -/
def allLevels : Nat := Level.trace.rank

/-- The number of levels that a text lets through: a name in either case, or the number itself. -/
def levelCount? (text : List Char) : Option Nat :=
  let digits := if text.head? = some '+' then text.drop 1 else text
  match Numeral.natural? 10 digits with
  | some count => if count ≤ allLevels then some count else none
  | none =>
      match String.ofList (text.map Char.toLower) with
      | "" => some Level.error.rank
      | "off" => some 0
      | "error" => some Level.error.rank
      | "warn" => some Level.warn.rank
      | "info" => some Level.info.rank
      | "debug" => some Level.debug.rank
      | "trace" => some Level.trace.rank
      | _ => none

/-- One directive of a filter. -/
structure Directive where
  /-- How many levels it lets through. -/
  count : Nat
  /-- What the origin of an entry starts with. -/
  target : Option (List Char)
  /-- The fields that an entry has. -/
  fields : List String
  /-- Whether it asks for a span or for the value of a field, so that it is about no entry. -/
  spansOnly : Bool
deriving DecidableEq

namespace Directive

/-- A directive about all entries. -/
def ofCount (count : Nat) : Directive := ⟨count, none, [], false⟩

/-! ### Reading -/

/-- What a character of a directive belongs to. Numbers are the positions where parts start. -/
inductive Spot where
  | start
  | target
  | span (first : Nat)
  | field (first : Nat)
  | fields
  | behindSpan
  | level (first : Nat)
deriving DecidableEq

/-- The part of a text between two positions. -/
def part (text : List Char) (first stop : Nat) : List Char := (text.drop first).take (stop - first)

/-- Add a field, which may have a value behind an equals sign. -/
def withField? (directive : Directive) (field : List Char) : Option Directive :=
  if field.isEmpty then none
  else
    let name := String.ofList (field.takeWhile (· ≠ '='))
    let directive := { directive with fields := directive.fields ++ [name] }
    match field.dropWhile (· ≠ '=') with
    | [] => some directive
    | _ :: rest =>
        if Pattern.isValid (String.ofList (rest.takeWhile (· ≠ '='))) then
          some { directive with spansOnly := true }
        else none

/-- Take a level or a target that ends a directive. A target alone lets everything through. -/
def withLevelOrTarget (directive : Directive) (text : List Char) : Directive :=
  match levelCount? text with
  | some count => { directive with count }
  | none => { directive with target := some text }

/-- Take a level; if there is none, everything is let through. -/
def withLevel? (directive : Directive) (text : List Char) : Option Directive :=
  if text.isEmpty then some directive
  else (levelCount? text).map fun count => { directive with count }

/-- One step of reading a directive: the character at a position. -/
def step? (text : List Char) (directive : Directive) (spot : Spot) (position : Nat) (c : Char) :
    Option (Directive × Spot) :=
  match spot with
  | .start =>
      if c = '[' then some (directive, .span (position + 1))
      else if c = '-' ∨ c = ':' ∨ c = '_' ∨ Text.isLetterOrNumeral c then
        some (directive, .target)
      else none
  | .target =>
      let named := { directive with target := some (part text 0 position) }
      if c = '=' then some (named, .level (position + 1))
      else if c = '[' then some (named, .span (position + 1))
      else some (directive, .target)
  | .span first =>
      if c = ']' then some ({ directive with spansOnly := true }, .behindSpan)
      else if c = '\x7b' then
        let isNamed := directive.spansOnly || position != first
        some ({ directive with spansOnly := isNamed }, .field (position + 1))
      else some (directive, .span first)
  | .field first =>
      if c = '\x7d' then
        (directive.withField? (part text first position)).map fun directive => (directive, .fields)
      else some (directive, .field first)
  | .fields => if c = ']' then some (directive, .behindSpan) else none
  | .behindSpan => if c = '=' then some (directive, .level (position + 1)) else none
  | .level first => some (directive, .level first)

/-- Read the rest of a directive from a position on. -/
def readFrom? (text : List Char) (directive : Directive) (spot : Spot) (position : Nat) :
    List Char → Option Directive
  | [] =>
      match spot with
      | .target => some (directive.withLevelOrTarget text)
      | .level first => directive.withLevel? (text.drop first)
      | .behindSpan => some directive
      | _ => none
  | c :: rest =>
      match step? text directive spot position c with
      | some (directive, spot) => readFrom? text directive spot (position + 1) rest
      | none => none

/-- Read a directive. Blanks at its ends are passed over, but they count as characters of the
parts that are cut out of it. -/
def ofChars? (text : List Char) : Option Directive :=
  readFrom? text (ofCount allLevels) .start 0 (Text.trim text)

/-! ### Choosing -/

/-- Whether a directive is about an entry. -/
def concerns (directive : Directive) (entry : Entry) : Bool :=
  let names := "message" :: entry.details.map Prod.fst
  !directive.spansOnly &&
    directive.target.all (fun target => target.isPrefixOf entry.origin.name.toList) &&
    directive.fields.all names.contains

/-- How long the target of a directive is; having none comes before the shortest one. -/
def targetSize (directive : Directive) : Nat :=
  match directive.target with
  | none => 0
  | some target => (String.ofList target).utf8ByteSize + 1

/-- Whether the first directive is more specific than the second one. -/
def outranks (a b : Directive) : Bool :=
  if a.targetSize ≠ b.targetSize then b.targetSize < a.targetSize
  else if a.fields.length ≠ b.fields.length then b.fields.length < a.fields.length
  else b.fields < a.fields

end Directive

/-- A filter of the log. -/
abbrev Filter := List Directive

namespace Filter

/-- The parts of a text between commas. -/
def parts : List Char → List (List Char)
  | [] => [[]]
  | ',' :: rest => [] :: parts rest
  | c :: rest =>
      match parts rest with
      | part :: others => (c :: part) :: others
      | [] => [[c]]

/-- Read a filter. Errors alone are shown if it has no directives. -/
def ofText? (text : String) : Option Filter := do
  let written := (parts text.toList).filter fun part => !part.isEmpty
  let directives ← written.mapM Directive.ofChars?
  let plain := directives.filter fun directive => directive.fields.isEmpty
  let filter := plain ++ directives.filter fun directive => !directive.fields.isEmpty
  return if filter.isEmpty then [.ofCount Level.error.rank] else filter

/-- The filter that lets a level and all graver ones through. -/
def ofLevel (level : Level) : Filter := [.ofCount level.rank]

/-- The directive that decides about an entry: the most specific one, and of equal ones the
last. -/
def deciding? (filter : Filter) (entry : Entry) : Option Directive :=
  (filter.filter (·.concerns entry)).foldl
    (fun best? directive =>
      match best? with
      | none => some directive
      | some best => if best.outranks directive then some best else some directive)
    none

/-- Whether an entry is shown. -/
def admits (filter : Filter) (entry : Entry) : Bool :=
  match deciding? filter entry with
  | none => false
  | some directive => entry.level.rank ≤ directive.count

end Filter

end BotConfig.Log
