import BotConfig.Layer
import BotConfig.Log
import BotConfig.Path

/-!
Sources of configuration, and the documents that they include.

A document names the files that it includes, relative to its own folder.  They come before the
document itself, so the document is laid over them.
-/

namespace BotConfig

/-- Where a document comes from. -/
inductive Source where
  | file (path : String)
  | inline (name text : String)
deriving DecidableEq, Inhabited

/-- A document that takes part in a configuration. -/
structure Layer where
  name : String
  document : Fields

namespace Source

/-- The name of a source in messages. -/
def name : Source → String
  | .file path => path
  | .inline name _ => name

/-- The folder that included files are relative to. -/
def folder : Source → String
  | .file path => Path.folder path
  | .inline _ _ => "."

/-- The text of a source. -/
def text (read : String → Except ReadFault String) : Source → Except ConfigError String
  | .file path => (read path).mapError (.unreadable path)
  | .inline _ text => .ok text

/-- The document of a source. -/
def document (read : String → Except ReadFault String) (source : Source) :
    Except ConfigError Fields := do
  let text ← source.text read
  (Document.read source.name text).mapError (.malformed source.name)

/-- The names in the rest of a list of included files, from a position on. -/
def includedNames : Nat → List Value → Except ConfigError (List String)
  | _, [] => .ok []
  | position, .text name :: rest => (name :: ·) <$> includedNames (position + 1) rest
  | position, _ :: _ =>
      .error (.invalid [.key Config.includeKey, .index position] .filePath)

/-- The names of the files that a document includes. -/
def included (document : Fields) : Except ConfigError (List String) :=
  match Fields.get? Config.includeKey document with
  | none => .ok []
  | some .null => .ok []
  | some (.list items) => includedNames 0 items
  | some _ => .error (.invalid [.key Config.includeKey] .filePaths)

/-- How deep includes may be nested. -/
def maxIncludeDepth : Nat := 5

/-- The layers of a source: those of the files that it includes, in order, and then its own. The
number of levels left bounds the nesting of includes, also where they form a loop. -/
def layers (read : String → Except ReadFault String) : Nat → Source → Traced (List Layer)
  | 0, source =>
      .fail (.invalid [.key Config.includeKey] (.shallowInclude maxIncludeDepth source.name))
  | levels + 1, source => do
      let document ← Traced.ofExcept (source.document read)
      Traced.report (.documentLoaded source.name (maxIncludeDepth - levels))
      let names ← Traced.ofExcept (included document)
      let inner ← names.mapM fun name =>
        layers read levels (.file (Path.join source.folder name))
      return inner.flatten ++ [⟨source.name, document⟩]

/-- The layers of sources in order. -/
def allLayers (read : String → Except ReadFault String) (sources : List Source) :
    Traced (List Layer) := do
  return (← sources.mapM (layers read (maxIncludeDepth + 1))).flatten

end Source

end BotConfig
