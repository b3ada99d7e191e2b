import BotConfig.Comment
import BotConfig.Strict.Reader
import BotConfig.Yaml.Tree

/-!
Documents: texts that hold a mapping, in one of two formats.

The name of a document decides its format.  The strict format may hold comments, which are blanked
before the text is read, so places in it stay what they are in the text.
-/

namespace BotConfig.Document

/-- The format of a document. -/
inductive Format where
  | strict
  | indented
deriving DecidableEq

/-- The format that a name stands for. Case makes no difference. -/
def Format.ofName (name : String) : Format :=
  let lower := name.toList.map Char.toLower
  if ".yaml".toList.isSuffixOf lower || ".yml".toList.isSuffixOf lower then .indented else .strict

/-- What can be wrong with the text of a document. -/
inductive Fault where
  | openComment (mark : Comment.Mark)
  | strict (failure : Strict.SyntaxFailure)
  | indented (fault : Yaml.Fault)
  | noMapping (kind : String)

/-- The line and the column of a fault, counted from one. A fault without a place is at zero. -/
def Fault.place : Fault → Nat × Nat
  | .openComment mark => (mark.line, mark.column)
  | .strict failure => (failure.place.line, failure.place.column)
  | .indented fault =>
      match fault.mark? with
      | some mark => (mark.line + 1, mark.column + 1)
      | none => (0, 0)
  | .noMapping _ => (1, 1)

/-- The wording of a fault. -/
def Fault.message : Fault → String
  | .openComment _ => "unterminated block comment"
  | .strict failure => failure.fault.message
  | .indented fault => fault.message
  | .noMapping kind => "document root must be a mapping, found " ++ kind

/-- Read a text in the strict format with comments. -/
def readStrict (text : String) : Except Fault Value :=
  match Comment.blankAll text.toList with
  | .error mark => .error (.openComment mark)
  | .ok blanked => (Strict.read (String.ofList blanked)).mapError .strict

/-- Read a text in a format. -/
def readValue (format : Format) (text : String) : Except Fault Value :=
  match format with
  | .strict => readStrict text
  | .indented => (Yaml.read text).mapError .indented

/-- The mapping that a document holds. -/
def read (name text : String) : Except Fault Fields := do
  match ← readValue (Format.ofName name) text with
  | .mapping fields => return fields
  | value => throw (.noMapping value.kind)

end BotConfig.Document
