import BotConfig.Log

/-!
The arguments of the program.
-/

namespace BotConfig

/-- What the arguments ask for. -/
structure CommandLine where
  /-- The files to load, in order. -/
  paths : List String
  /-- Whether the configuration is printed. -/
  shows : Bool
  /-- Whether the program stays and reloads the configuration when it is told to. -/
  watches : Bool
  /-- The name of the log level. -/
  levelName : Option String
  /-- The arguments that mean nothing. -/
  ignored : List String
deriving DecidableEq

namespace CommandLine

/-- The file that is loaded if no file is given. -/
def standardPath : String := "configs/config.json"

/-- What a text holds after a start that it must have. -/
def after? (start text : String) : Option String :=
  if start.toList.isPrefixOf text.toList then
    some (String.ofList (text.toList.drop start.length))
  else none

/-- Take one more argument. -/
def take (line : CommandLine) (argument : String) : CommandLine :=
  match after? "--config=" argument, after? "--log-level=" argument with
  | some path, _ => { line with paths := line.paths ++ [path] }
  | none, some name => { line with levelName := some name }
  | none, none =>
      if argument = "--show-config" then { line with shows := true }
      else if argument = "--watch" then { line with watches := true }
      else { line with ignored := line.ignored ++ [argument] }

/-- Read the arguments. -/
def ofArguments (arguments : List String) : CommandLine :=
  let line := arguments.foldl take ⟨[], false, false, none, []⟩
  if line.paths.isEmpty then { line with paths := [standardPath] } else line

/-- The log level, which is that of notices unless a known name is given. -/
def level (line : CommandLine) : Log.Level :=
  match line.levelName with
  | some "debug" => .debug
  | some "warn" => .warn
  | some "warning" => .warn
  | some "error" => .error
  | some "trace" => .trace
  | _ => .info

/-- What the program says about the arguments that mean nothing. -/
def complaints (line : CommandLine) : List String :=
  line.ignored.map fun argument => "Ignoring unknown argument: " ++ argument

end CommandLine

end BotConfig
