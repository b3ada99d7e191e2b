import BotConfig.Consistency
import BotConfig.Override
import BotConfig.Source

/-!
Loading a configuration.

The layers of all sources are laid over each other, the overrides of the environment over them,
and the outcome is decoded and checked.
-/

namespace BotConfig

/-- How configurations are loaded. -/
structure Loader where
  /-- What the names of environment variables that override values start with, if any do. -/
  environmentStart : Option String
deriving DecidableEq

/-- All layers in one. -/
structure Merged where
  document : Fields
  /-- The names of the documents, in the order of loading. -/
  files : List String
  overrides : List Override

namespace Loader

/-- The overrides that a loader finds in an environment. -/
def overrides (loader : Loader) (environment : List (String × String)) : List Override :=
  match loader.environmentStart with
  | none => []
  | some start => Override.ofEnvironment start environment

/-- The document of all layers: without the list of included files, and without nulls. -/
def documentOf (layers : List Layer) (overrides : List Override) : Fields :=
  let document := Fields.overlayAll (layers.map Layer.document)
  let document := (Override.layers overrides).foldl Fields.overlay document
  Value.prunedFields (Fields.erase Config.includeKey document)

/-- Lay all sources and the overrides over each other. -/
def merge (loader : Loader) (world : World) (sources : List Source) : Traced Merged := do
  if sources.isEmpty then Traced.report .noSources
  let layers ← Source.allLayers world.read sources
  let overrides := loader.overrides world.environment
  Traced.reportAll (overrides.map .overridden)
  return ⟨documentOf layers overrides, layers.map Layer.name, overrides⟩

/-- The document with the values of overrides at the keys that the document spells with
capitals. -/
def aligned (merged : Merged) : Fields :=
  merged.overrides.foldl (fun document override => Key.align override.path document)
    merged.document

/-- The overrides that lead to no field of a configuration. -/
def unused (config : Config) (overrides : List Override) : List Override :=
  let rendered := config.toValue
  overrides.filter fun override =>
    !Key.resolves override.path rendered && !Key.resolves override.path (.mapping config.extra)

/-- A simulation has no use for credentials. -/
def forgetCredentials (config : Config) : Traced Config := do
  if config.dryRun && config.exchange.holdsCredential then
    Traced.report .credentialsRemoved
    return { config with exchange := config.exchange.withoutCredentials }
  else return config

/-- Decode and check a document. -/
def settle (merged : Merged) : Traced Config := do
  let config ← Traced.ofExcept (Config.ofDocument (aligned merged))
  Traced.reportAll (config.unrecognized.map .unrecognizedKey)
  Traced.reportAll ((unused config merged.overrides).map .unusedOverride)
  let config ← config.consistent
  let config ← forgetCredentials config
  let config := { config with files := merged.files }
  Traced.report (.validated config)
  return config

/-- Load a configuration from sources. -/
def load (loader : Loader) (world : World) (sources : List Source) : Traced Config := do
  settle (← loader.merge world sources)

end Loader

end BotConfig
