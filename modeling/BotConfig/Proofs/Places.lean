import BotConfig.Decode
import BotConfig.Proofs.Paths

/-!
Places in documents.

A place is a path of keys and of positions in lists, the way messages write it.  Where all steps
are keys it leads where a path of keys leads.
-/

namespace BotConfig.Value

open Decode (Step)

/-- The items of a value: none unless it is a list. -/
def items : Value → List Value
  | .list items => items
  | _ => []

/-- The part of a value that one step leads to. -/
def part? (value : Value) : Step → Option Value
  | .key name => Fields.get? name value.entries
  | .index position => value.items[position]?

/-- The value that a path leads to. -/
def follow? : Value → List Step → Option Value
  | value, [] => some value
  | value, step :: rest => (value.part? step).bind fun part => part.follow? rest

@[simp]
theorem follow?_nil (value : Value) : value.follow? [] = some value := rfl

@[simp]
theorem follow?_cons (value : Value) (step : Step) (rest : List Step) :
    value.follow? (step :: rest) = (value.part? step).bind fun part => part.follow? rest := rfl

theorem follow?_keys (value : Value) (path : List String) :
    value.follow? (path.map Step.key) = value.atPath? path := by
  induction path generalizing value with
  | nil => exact (atPath?_nil value).symm
  | cons key rest inductionHypothesis =>
      simp only [List.map_cons, follow?_cons, atPath?_cons, part?, inductionHypothesis]

/-- What a value shows without its parts: itself, the number of its items or its keys. -/
def outline : Value → Value
  | .list items => .list (items.map fun _ => .null)
  | .mapping fields => .mapping ((Fields.keys fields).map fun key => (key, .null))
  | value => value

end BotConfig.Value
