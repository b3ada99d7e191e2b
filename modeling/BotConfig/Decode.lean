import BotConfig.Decimal
import BotConfig.Pair
import BotConfig.Value

/-!
Decoding values into typed data, and writing typed data as values.

A decoder either yields its data or a failure: the steps that lead to the offending value and what
is wrong there.  A record is read from a mapping by field names or from a list by position.  In a
mapping the fault at the least key wins over all others, and a fault wins over a missing field; in
a list the items count in order.
-/

namespace BotConfig

/-- What was found where something else was expected. -/
inductive Shape where
  | null
  | boolean (flag : Bool)
  | integer (value : Int)
  | real (value : Binary64)
  | text (content : String)
  | list
  | mapping

/-- The wording of what was found. -/
def Shape.message : Shape → String
  | .null => "null"
  | .boolean flag => "boolean `" ++ toString flag ++ "`"
  | .integer value => "integer `" ++ toString value ++ "`"
  | .real value => "floating point `" ++ value.text ++ "`"
  | .text content => "string " ++ Text.quoted content
  | .list => "sequence"
  | .mapping => "map"

/-- The shape of a value. -/
def Value.shape : Value → Shape
  | .null => .null
  | .boolean flag => .boolean flag
  | .number (.integer value) => .integer value
  | .number (.real value) => .real value
  | .text content => .text content
  | .list _ => .list
  | .mapping _ => .mapping

namespace Decode

/-- The spelling of a stake that uses the whole balance. -/
def unlimitedSpelling : String := "unlimited"

/-- What can be wrong with a value. -/
inductive Fault where
  | wrongType (found : Shape) (expected : String)
  | wrongValue (found : Shape) (expected : String)
  | wrongLength (length : Nat) (expected : String)
  | unknownVariant (name : String) (known : List String)
  | missingField (name : String)
  | repeatedField (name : String)
  | neitherTextNorTexts
  | notText (kind : String)
  | malformedPair (text : String) (fault : PairFault)
  | noStake
  | unknownStake (text : String)
  | invalidAddress

/-- The alternatives of a choice, each between backticks. -/
def alternatives : List String → String
  | [] => "there are no variants"
  | [a] => "expected `" ++ a ++ "`"
  | [a, b] => "expected `" ++ a ++ "` or `" ++ b ++ "`"
  | names => "expected one of " ++ String.intercalate ", " (names.map fun n => "`" ++ n ++ "`")

/-- The wording of a fault. -/
def Fault.message : Fault → String
  | .wrongType found expected => "invalid type: " ++ found.message ++ ", expected " ++ expected
  | .wrongValue found expected => "invalid value: " ++ found.message ++ ", expected " ++ expected
  | .wrongLength length expected =>
      "invalid length " ++ toString length ++ ", expected " ++ expected
  | .unknownVariant name known => "unknown variant `" ++ name ++ "`, " ++ alternatives known
  | .missingField name => "missing field `" ++ name ++ "`"
  | .repeatedField name => "duplicate field `" ++ name ++ "`"
  | .neitherTextNorTexts => "data did not match any variant of untagged enum OneOrMany"
  | .notText kind => "expected a string, found " ++ kind
  | .malformedPair text fault => "malformed pair " ++ Text.quoted text ++ ": " ++ fault.message
  | .noStake => "expected a number or " ++ Text.quoted unlimitedSpelling
  | .unknownStake text =>
      "must be a positive number or " ++ Text.quoted unlimitedSpelling ++ ", found " ++
        Text.quoted text
  | .invalidAddress => "invalid IPv4 address syntax"

/-- One step from a value into a part of it. -/
inductive Step where
  | key (name : String)
  | index (position : Nat)
deriving DecidableEq

/-- A path as messages write it: keys joined by dots, positions in brackets. -/
def pathText : List Step → String :=
  List.foldl (fun text step =>
    match step with
    | .key name => if text.isEmpty then name else text ++ "." ++ name
    | .index position => text ++ "[" ++ toString position ++ "]") ""

/-- A fault and the path that leads to it. -/
structure Failure where
  path : List Step
  fault : Fault

/-- The same failure seen from one step further out. -/
def Failure.under (step : Step) (failure : Failure) : Failure :=
  { failure with path := step :: failure.path }

/-- A way to read data out of a value. -/
abbrev Decoder (α : Type) := Value → Except Failure α

/-- Fail at the value itself. -/
def fail {α : Type} (fault : Fault) : Except Failure α := .error ⟨[], fault⟩

/-- Fail because a value of another type stands here. -/
def wrongType {α : Type} (value : Value) (expected : String) : Except Failure α :=
  fail (.wrongType value.shape expected)

/-- A text. -/
def text : Decoder String
  | .text content => .ok content
  | value => wrongType value "a string"

/-- A truth value. -/
def boolean : Decoder Bool
  | .boolean flag => .ok flag
  | value => wrongType value "a boolean"

/-- A whole number of so many bits without a sign. -/
def unsigned (bits : Nat) : Decoder Nat
  | .number (.integer value) =>
      if 0 ≤ value ∧ value < twoTo bits then .ok value.natAbs
      else fail (.wrongValue (.integer value) ("u" ++ toString bits))
  | value => wrongType value ("u" ++ toString bits)

/-- A binary64 number; whole numbers are rounded to one. -/
def real : Decoder Binary64
  | .number number => .ok number.toBinary64
  | value => wrongType value "f64"

/-- A decimal amount: a number or the text of one. -/
def decimal : Decoder Decimal := fun value =>
  let expected := "a Decimal type representing a fixed-point number"
  let orFault (amount : Option Decimal) : Except Failure Decimal :=
    match amount with
    | some amount => .ok amount
    | none => fail (.wrongValue value.shape expected)
  match value with
  | .number (.integer value) => .ok (.ofInt value)
  | .number (.real number) => orFault (Decimal.ofBinary64? number)
  | .text content => orFault (Decimal.ofText? content)
  | _ => wrongType value expected

/-- Data that null stands in for when it is not set. -/
def optional {α : Type} (decode : Decoder α) : Decoder (Option α)
  | .null => .ok none
  | value => some <$> decode value

/-- The items of a list, decoded in order from a position on. -/
def itemsFrom {α : Type} (decode : Decoder α) : Nat → List Value → Except Failure (List α)
  | _, [] => .ok []
  | position, item :: rest =>
      match decode item with
      | .error failure => .error (failure.under (.index position))
      | .ok first => (first :: ·) <$> itemsFrom decode (position + 1) rest

/-- A list. -/
def listOf {α : Type} (decode : Decoder α) : Decoder (List α)
  | .list items => itemsFrom decode 0 items
  | value => wrongType value "a sequence"

/-- A free-form mapping. -/
def fields : Decoder Fields
  | .mapping fields => .ok fields
  | value => wrongType value "a map"

/-- Free text, which documents may also write as a bare number or truth value. -/
def freeText : Decoder String
  | .text content => .ok content
  | .number number => .ok number.text
  | .boolean flag => .ok (toString flag)
  | .null => .ok ""
  | value => fail (.notText value.kind)

/-- Free text where an empty one means that it is not set. -/
def optionalFreeText : Decoder (Option String) := fun value =>
  (freeText value).map fun content => if content.isEmpty then none else some content

/-- One text or a list of texts. -/
def texts : Decoder (List String)
  | .text content => .ok [content]
  | .list items =>
      match itemsFrom text 0 items with
      | .ok contents => .ok contents
      | .error _ => fail .neitherTextNorTexts
  | _ => fail .neitherTextNorTexts

/-- A trading pair. -/
def pair : Decoder Pair := fun value => do
  let content ← text value
  match Pair.ofText content with
  | .ok pair => return pair
  | .error fault => fail (.malformedPair content fault)

/-- One of several named choices, given as its name or as a mapping from the name to null. Each
choice has the spelling it is known by first, and then its other spellings. -/
def choice {α : Type} (choices : List (List String × α)) : Decoder α := fun value =>
  let named (name : String) : Except Failure α :=
    match choices.find? fun entry => entry.1.contains name with
    | some entry => .ok entry.2
    | none => fail (.unknownVariant name (choices.flatMap Prod.fst))
  match value with
  | .text name => named name
  | .mapping [(name, content)] => do
      let chosen ← named name
      if content.isNull then return chosen
      else .error (Failure.under (.key name) ⟨[], .wrongType content.shape "unit"⟩)
  | .mapping _ => fail (.wrongValue .mapping "map with a single key")
  | value => wrongType value "string or map"

/-- What reading a record from a mapping has come to. -/
inductive Reading (α : Type) where
  | done (data : α)
  | faulty (key : String) (failure : Failure)
  | missing (name : String)

/-- Combine two parts of a record: the fault at the lesser key wins, a fault wins over a missing
field, and of missing fields the first one counts. -/
def Reading.both {α β : Type} : Reading (α → β) → Reading α → Reading β
  | .done f, .done a => .done (f a)
  | .done _, .faulty key failure => .faulty key failure
  | .done _, .missing name => .missing name
  | .faulty key failure, .faulty key' failure' =>
      if key' < key then .faulty key' failure' else .faulty key failure
  | .faulty key failure, _ => .faulty key failure
  | .missing _, .faulty key failure => .faulty key failure
  | .missing name, _ => .missing name

/-- A description of a record, read from a mapping or from the items of a list. -/
structure Record (α : Type) where
  /-- The number of fields. -/
  size : Nat
  /-- Read the record from the entries of a mapping. -/
  fromFields : Fields → Reading α
  /-- Read the record from list items at and after a position; gives the items left over. -/
  fromItems : (expected : String) → (position : Nat) → List Value →
    Except Failure (α × List Value)

namespace Record

/-- A record without fields. -/
def pure {α : Type} (data : α) : Record α where
  size := 0
  fromFields _ := .done data
  fromItems _ _ items := .ok (data, items)

/-- One record after another. -/
def seq {α β : Type} (first : Record (α → β)) (second : Record α) : Record β where
  size := first.size + second.size
  fromFields fields := (first.fromFields fields).both (second.fromFields fields)
  fromItems expected position items :=
    match first.fromItems expected position items with
    | .error failure => .error failure
    | .ok (f, rest) =>
        match second.fromItems expected (position + first.size) rest with
        | .error failure => .error failure
        | .ok (a, rest) => .ok (f a, rest)

instance : Applicative Record where
  pure := Record.pure
  seq first second := Record.seq first (second ())

/-- What a field that is left out becomes. -/
def absent {α : Type} (name : String) : Option α → Reading α
  | some data => .done data
  | none => .missing name

/-- Read the field at a key, if the mapping has it. -/
def present {α : Type} (decode : Decoder α) (key : String) (value : Value) : Reading α :=
  match decode value with
  | .ok data => .done data
  | .error failure => .faulty key (failure.under (.key key))

/-- Read the first of the remaining items of a list. -/
def nextItem {α : Type} (decode : Decoder α) (fallback : Option α) (expected : String)
    (position : Nat) : List Value → Except Failure (α × List Value)
  | [] =>
      match fallback with
      | some data => .ok (data, [])
      | none => fail (.wrongLength position expected)
  | item :: rest =>
      match decode item with
      | .ok data => .ok (data, rest)
      | .error failure => .error (failure.under (.index position))

/-- A field, with what it becomes when it is left out. -/
def field {α : Type} (name : String) (decode : Decoder α) (fallback : Option α) : Record α where
  size := 1
  fromFields fields :=
    match Fields.get? name fields with
    | some value => present decode name value
    | none => absent name fallback
  fromItems := nextItem decode fallback

/-- A field that must be there. -/
def required {α : Type} (name : String) (decode : Decoder α) : Record α := field name decode none

/-- A field that has a value when it is left out. -/
def defaulted {α : Type} (name : String) (decode : Decoder α) (fallback : α) : Record α :=
  field name decode (some fallback)

/-- A field with a second spelling that sorts after the first. Both at once are a fault. -/
def spelledTwoWays {α : Type} (name spelling : String) (decode : Decoder α) (fallback : α) :
    Record α where
  size := 1
  fromFields fields :=
    match Fields.get? name fields, Fields.get? spelling fields with
    | none, none => .done fallback
    | some value, none => present decode name value
    | none, some value => present decode spelling value
    | some value, some _ =>
        match present decode name value with
        | .done _ => .faulty spelling ⟨[], .repeatedField name⟩
        | faulty => faulty
  fromItems := nextItem decode (some fallback)

/-- Decode a record of the given name. -/
def decoder {α : Type} (name : String) (record : Record α) : Decoder α
  | .mapping fields =>
      match record.fromFields fields with
      | .done data => .ok data
      | .faulty _ failure => .error failure
      | .missing field => fail (.missingField field)
  | .list items =>
      let expected := "struct " ++ name ++ " with " ++ toString record.size ++ " elements"
      match record.fromItems expected 0 items with
      | .error failure => .error failure
      | .ok (data, []) => .ok data
      | .ok (_, _ :: _) => fail (.wrongLength items.length "fewer elements in array")
  | value => wrongType value ("struct " ++ name)

end Record

end Decode

namespace Encode

/-- A whole number without a sign. -/
def natural (n : Nat) : Value := .number (.integer n)

/-- A binary64 number. -/
def real (x : Binary64) : Value := .number (.real x)

/-- Data that may not be set. -/
def optional {α : Type} (encode : α → Value) : Option α → Value
  | none => .null
  | some data => encode data

/-- A list. -/
def listOf {α : Type} (encode : α → Value) (items : List α) : Value := .list (items.map encode)

end Encode

end BotConfig
