import BotConfig.CommandLine
import BotConfig.EnvironmentFile
import BotConfig.Handle
import BotConfig.Log.Filter
import BotConfig.Redaction

/-!
The program: it loads a configuration, tells about it, and reloads it when it is told to.

Everything that it prints is computed here from what the files hold; running it is left to the
outer layer.
-/

namespace BotConfig

/-- A program that is about to load its configuration. -/
structure Program where
  command : CommandLine
  environment : List (String × String)
  filter : Log.Filter

namespace Program

/-- What the names of variables that override values start with. -/
def environmentStart : String := "TRADING"

/-- The file of variables that is read first. -/
def environmentPath : String := ".env"

/-- The variable that holds a filter of the log. -/
def filterVariable : String := "RUST_LOG"

/-- The filter that the environment sets, or else the one of a level. -/
def chosenFilter (environment : List (String × String)) (level : Log.Level) : Log.Filter :=
  ((environment.lookup filterVariable).bind Log.Filter.ofText?).getD (.ofLevel level)

/-- The program for arguments, an environment and the text of the file of variables, if there is
one. -/
def prepare (arguments : List String) (environment : List (String × String))
    (variables? : Option String) : Program :=
  let command := CommandLine.ofArguments arguments
  let environment := EnvironmentFile.load environment (variables?.getD "")
  ⟨command, environment, chosenFilter environment command.level⟩

/-- The world of the program, with the given files. -/
def world (program : Program) (read : String → Except ReadFault String) : World :=
  ⟨read, program.environment⟩

/-- Load the configuration. -/
def load (program : Program) (read : String → Except ReadFault String) : Traced Handle :=
  Handle.load ⟨some environmentStart⟩ (program.world read) (program.command.paths.map .file)

/-- The lines of the log that are shown. -/
def lines (program : Program) (entries : List Log.Entry) : List String :=
  (entries.filter program.filter.admits).map Log.Entry.line

/-- What is told about a configuration. -/
def summary (config : Config) : List Log.Entry :=
  .summary config :: if config.isLive then [.live] else []

/-- What the program prints when its configuration has been loaded, or could not be. -/
def opening (program : Program) (loading : Traced Handle) : List String :=
  match loading.outcome with
  | .error error => program.lines (loading.log ++ [.loadFailed error])
  | .ok handle =>
      let config := handle.current.config
      program.lines (loading.log ++ summary config) ++
        (if program.command.shows then [config.redacted.pretty 0] else []) ++
        if program.command.watches then program.lines [.watching] else []

/-- What the program prints when it has been told to reload the configuration. -/
def reloading (program : Program) (reloading : Traced Published) : List String :=
  program.lines <| .hangUp :: reloading.log ++
    match reloading.outcome with
    | .error _ => []
    | .ok published => summary published.config

/-- What the program prints when it stops watching. -/
def closing (program : Program) : List String := program.lines [.stopped]

/-- The exit code of the program. -/
def exitCode (loading : Traced Handle) : Nat :=
  match loading.outcome with
  | .error _ => 1
  | .ok _ => 0

end Program

end BotConfig
