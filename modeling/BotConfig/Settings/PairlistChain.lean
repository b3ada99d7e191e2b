import BotConfig.Decode
import BotConfig.Error

/-!
The chain of methods that builds the list of pairs to trade.

Each stage names its method; all its other entries are parameters of the method and are kept as
they are.
-/

namespace BotConfig

/-- Read a method. -/
def PairlistMethod.decode : Decode.Decoder PairlistMethod :=
  Decode.choice (PairlistMethod.all.map fun method => ([method.name], method))

/-- One stage of the chain. -/
structure PairlistStage where
  method : PairlistMethod
  /-- The parameters of the method, by ascending names. -/
  parameters : Fields

namespace PairlistStage

/-- The key of the method. -/
def methodKey : String := "method"

/-- Read a stage from a mapping. -/
def decode : Decode.Decoder PairlistStage
  | .mapping fields =>
      match Fields.get? methodKey fields with
      | none => Decode.fail (.missingField methodKey)
      | some value =>
          match PairlistMethod.decode value with
          | .ok method => .ok ⟨method, Fields.erase methodKey fields⟩
          | .error failure => .error (failure.under (.key methodKey))
  | value => Decode.wrongType value "struct PairlistFilter"

/-- Write a stage. -/
def encode (stage : PairlistStage) : Value :=
  .mapping ((methodKey, .text stage.method.name) :: stage.parameters)

/-- Whether two stages are equal. -/
def agrees (a b : PairlistStage) : Bool :=
  a.method == b.method && (Value.mapping a.parameters).agrees (.mapping b.parameters)

/-- Whether a value is a whole number above zero. -/
def isWholeAboveZero : Value → Bool
  | .number (.integer value) => 0 < value
  | _ => false

/-- The rules for a stage at a position of the chain: a generator comes first, two of the
generators come nowhere else, and a list by volume has a size. -/
def rules (position : Nat) (stage : PairlistStage) : List Rule :=
  let here : List Decode.Step := [.key "pairlists", .index position]
  let size := here ++ [.key "number_assets"]
  [⟨position != 0 || stage.method.isGenerator,
      .invalid (here ++ [.key methodKey]) (.leads stage.method)⟩,
    ⟨position == 0 || !stage.method.mustLead,
      .invalid (here ++ [.key methodKey]) (.follows stage.method)⟩] ++
  if stage.method = .volumePairList then
    match Fields.get? "number_assets" stage.parameters with
    | none => [⟨false, .missing size⟩]
    | some .null => [⟨false, .missing size⟩]
    | some value => [⟨isWholeAboveZero value, .invalid size (.wholeAboveZero value)⟩]
  else []

end PairlistStage

namespace PairlistChain

/-- The chain that is used when none is given. -/
def standard : List PairlistStage := [⟨.staticPairList, []⟩]

/-- The rules for the stages from a position on. -/
def rulesFrom : Nat → List PairlistStage → List Rule
  | _, [] => []
  | position, stage :: rest => stage.rules position ++ rulesFrom (position + 1) rest

/-- The rules for a chain. -/
def rules (stages : List PairlistStage) : List Rule := rulesFrom 0 stages

end PairlistChain

end BotConfig
