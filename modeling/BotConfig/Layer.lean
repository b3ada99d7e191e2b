import BotConfig.Value

/-!
Layers of configuration.

A later layer is laid over the earlier ones: mappings are joined key by key, and everything else
is replaced.  A null deletes what stands at its key once all layers are laid.
-/

namespace BotConfig

namespace Value

mutual

/-- Lay a value over another. -/
def overlay (base : Value) : Value → Value
  | .mapping patch =>
      match base with
      | .mapping fields => .mapping (overlayFields fields patch)
      | _ => .mapping patch
  | patch => patch

/-- Lay entries over a mapping. -/
def overlayFields (base : Fields) : List (String × Value) → Fields
  | [] => base
  | (key, value) :: rest =>
      let merged :=
        match Fields.get? key base with
        | some old => overlay old value
        | none => value
      overlayFields (Fields.insert key merged base) rest

end

mutual

/-- The value without the nulls of its mappings. Lists are left as they are. -/
def pruned : Value → Value
  | .mapping fields => .mapping (prunedFields fields)
  | value => value

/-- The entries that are not null, each pruned. -/
def prunedFields : List (String × Value) → Fields
  | [] => []
  | (key, value) :: rest =>
      if value.isNull then prunedFields rest else (key, value.pruned) :: prunedFields rest

end

/-- A value at the end of a path of keys, as a mapping if the path is not empty. -/
def nested (value : Value) : List String → Value
  | [] => value
  | key :: rest => .mapping [(key, nested value rest)]

end Value

namespace Fields

/-- Lay a mapping over another. -/
def overlay (base patch : Fields) : Fields := Value.overlayFields base patch

/-- Lay mappings over each other in order. -/
def overlayAll (layers : List Fields) : Fields := layers.foldl overlay []

/-- A mapping with a value at the end of a path of keys. -/
def nested (path : List String) (value : Value) : Fields :=
  match value.nested path with
  | .mapping fields => fields
  | _ => []

end Fields

/-! ### The case of keys -/

namespace Key

/-- Whether two keys differ at most in the case of ASCII letters. -/
def agrees (a b : String) : Bool := a.toList.map Char.toLower == b.toList.map Char.toLower

/-- The first key of a mapping that differs from a key, and only in case. -/
def variant? (key : String) (fields : Fields) : Option String :=
  fields.keys.find? fun other => other != key && agrees other key

/-- Move the value at a path of lower-case keys to the key that the mapping has for it, where that
differs in case. On the way to the value a key is taken as it is spelled in the path if there is
one, and in its other spelling otherwise. -/
def align : List String → Fields → Fields
  | [], fields => fields
  | key :: rest, fields =>
      match variant? key fields, rest with
      | some other, [] =>
          match Fields.get? key fields with
          | some value => Fields.insert other value (Fields.erase key fields)
          | none => fields
      | found, rest =>
          let step :=
            match found with
            | some other => if (Fields.get? key fields).isSome then key else other
            | none => key
          match Fields.get? step fields with
          | some (.mapping child) => Fields.insert step (.mapping (align rest child)) fields
          | _ => fields

/-- Whether a path of keys leads to a value, where case makes no difference. -/
def resolves : List String → Value → Bool
  | [], _ => true
  | key :: rest, .mapping fields =>
      fields.any fun entry => agrees entry.1 key && resolves rest entry.2
  | _ :: _, _ => false

end Key

end BotConfig
