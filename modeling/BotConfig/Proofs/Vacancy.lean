import BotConfig.Proofs.Conservation
import BotConfig.Proofs.Literals
import BotConfig.Proofs.Places

/-!
Where a document has nothing to say.

What has been read is empty only where nothing that counts stands in the document: nothing at all,
a null, a text of blanks or a list without items.  For a field of a section that is the place under
the name of the section and its own name, whether the section is written as a mapping, as a list or
not at all.
-/

namespace BotConfig

open Decode Decode.Record

/-! ### Places where nothing counts -/

/-- Nothing that counts stands at a place: nothing at all, a null, a text of blanks or a list
without items. -/
inductive Vacant : Option Value → Prop
  | nothing : Vacant none
  | null : Vacant (some .null)
  | blank {content : String} : Text.isBlankText content = true → Vacant (some (.text content))
  | noItems : Vacant (some (.list []))

namespace Vacant

variable {α : Type} {decode : Decoder α} {value : Value}

end Vacant

namespace Config

variable {document : Fields} {config : Config}

/-- Every part of a configuration is read from a document. -/
def ReadFrom (document : Fields) (config : Config) : Prop :=
  ∀ part ∈ parts, part.ReadFrom (Fields.get? part.key document) config

section

variable {α : Type} {key : String} {decode : Decoder α} {fallback : Option α} {view : Config → α}

end

namespace ReadFrom

variable (reads : config.ReadFrom document)

include reads

end ReadFrom

end Config

end BotConfig
