import BotConfig.Number

/-!
The value tree that every document is read into.

A mapping is a list of keys with values.  Readers and the operations here keep the keys strictly
ascending by code point, so two mappings with the same entries are the same list.
-/

namespace BotConfig

/-- A value of a document. -/
inductive Value where
  | null
  | boolean (flag : Bool)
  | number (value : Number)
  | text (content : String)
  | list (items : List Value)
  | mapping (fields : List (String × Value))
deriving Inhabited

/-- The entries of a mapping. -/
abbrev Fields := List (String × Value)

namespace Fields

/-- The value at a key. -/
def get? (key : String) : Fields → Option Value
  | [] => none
  | (name, value) :: rest => if name = key then some value else get? key rest

/-- Put a value at a key, before the first greater key, replacing a value already there. -/
def insert (key : String) (value : Value) : Fields → Fields
  | [] => [(key, value)]
  | (name, old) :: rest =>
      if name = key then (key, value) :: rest
      else if key < name then (key, value) :: (name, old) :: rest
      else (name, old) :: insert key value rest

/-- Drop a key. -/
def erase (key : String) : Fields → Fields
  | [] => []
  | (name, value) :: rest => if name = key then rest else (name, value) :: erase key rest

/-- The keys in order. -/
def keys (fields : Fields) : List String := fields.map Prod.fst

/-- The mapping of the given entries; of entries with one key the last one stays. -/
def ofEntries (entries : List (String × Value)) : Fields :=
  entries.foldl (fun fields entry => insert entry.1 entry.2 fields) []

/-- Keys strictly ascend. -/
def Ascending (fields : Fields) : Prop := fields.keys.Pairwise (· < ·)

end Fields

namespace Value

/-- Whether a value is null. -/
def isNull : Value → Bool
  | .null => true
  | _ => false

/-- What messages about documents call a value. -/
def kind : Value → String
  | .null => "null"
  | .boolean _ => "a boolean"
  | .number _ => "a number"
  | .text _ => "a string"
  | .list _ => "a list"
  | .mapping _ => "a mapping"

mutual

/-- The value with the keys of every mapping in ascending order. -/
def sorted : Value → Value
  | .list items => .list (sortedItems items)
  | .mapping fields => .mapping (sortedFields fields)
  | value => value

/-- The items of a list, each sorted. -/
def sortedItems : List Value → List Value
  | [] => []
  | item :: rest => item.sorted :: sortedItems rest

/-- The entries of a mapping, each sorted, in ascending order of keys. -/
def sortedFields : List (String × Value) → List (String × Value)
  | [] => []
  | (key, value) :: rest => Fields.insert key value.sorted (sortedFields rest)

end

mutual

/-- Equality of values, where numbers are compared as numbers. -/
def agrees : Value → Value → Bool
  | .null, .null => true
  | .boolean a, .boolean b => a == b
  | .number a, .number b => a.agrees b
  | .text a, .text b => a == b
  | .list a, .list b => itemsAgree a b
  | .mapping a, .mapping b => fieldsAgree a b
  | _, _ => false

/-- Equality of lists item by item. -/
def itemsAgree : List Value → List Value → Bool
  | [], [] => true
  | a :: as, b :: bs => a.agrees b && itemsAgree as bs
  | _, _ => false

/-- Equality of mappings entry by entry. -/
def fieldsAgree : List (String × Value) → List (String × Value) → Bool
  | [], [] => true
  | (k, a) :: as, (l, b) :: bs => k == l && a.agrees b && fieldsAgree as bs
  | _, _ => false

end

/-- The value at a path of keys. -/
def atPath? : Value → List String → Option Value
  | value, [] => some value
  | .mapping fields, key :: rest =>
      match Fields.get? key fields with
      | some value => value.atPath? rest
      | none => none
  | _, _ :: _ => none

end Value

end BotConfig
