import BotConfig.Program
import Std.Async.Select
import Std.Async.Signal

/-!
The outer layer of the program: it reads files and the environment, prints, and waits for signals.
-/

namespace BotConfig.Main

/-- The texts between zero bytes, as far as they are valid. -/
def textsBetweenZeros (bytes : List UInt8) : List String :=
  let ended (part : List UInt8) : List String :=
    (String.fromUTF8? ⟨part.reverse.toArray⟩).toList
  let (texts, last) := bytes.foldl
    (fun (texts, part) byte =>
      if byte = 0 then (texts ++ ended part, []) else (texts, byte :: part))
    ([], [])
  texts ++ ended last

/-- The name and the value in an entry of the environment. -/
def entry? (text : String) : Option (String × String) :=
  match text.toList.span (· ≠ '=') with
  | (name, '=' :: content) =>
      if name.isEmpty then none else some (String.ofList name, String.ofList content)
  | _ => none

/-- The environment of the process, in its order. -/
def environment : IO (List (String × String)) := do
  let bytes ← IO.FS.readBinFile "/proc/self/environ"
  return (textsBetweenZeros bytes.toList).filterMap entry?

/-- The number of an error of the system, which may be given as a negative one. -/
def errorNumber (code : UInt32) : Nat := if code < 2147483648 then code.toNat else (0 - code).toNat

/-- The fault that an error of the system amounts to. -/
def faultOf : IO.Error → ReadFault
  | .permissionDenied .. => .denied
  | .inappropriateType _ code _ => if errorNumber code = 20 then .notDirectory else .isDirectory
  | .invalidArgument _ code _ => if errorNumber code = 36 then .nameTooLong else .nulInName
  | _ => .notFound

/-- Read a file. -/
def readText (path : String) : IO (Except ReadFault String) := do
  try
    match String.fromUTF8? (← IO.FS.readBinFile path) with
    | some content => return .ok content
    | none => return .error .notText
  catch error => return .error (faultOf error)

/-- What has been read so far, by path. -/
abbrev Known := List (String × Except ReadFault String)

/-- What a path holds as far as it is known. -/
def Known.read (known : Known) (path : String) : Except ReadFault String :=
  (known.lookup path).getD (.error .notFound)

/-- Run a computation that reads files. It is run again with one more file as long as it ends at a
file that has not been read. -/
partial def reading {α : Type} (run : (String → Except ReadFault String) → Traced α)
    (known : Known) : IO (Traced α) := do
  let result := run (Known.read known)
  match result.outcome with
  | .error (.unreadable path _) =>
      if (known.lookup path).isSome then return result
      else reading run ((path, ← readText path) :: known)
  | _ => return result

/-- Reload the configuration at each hang-up, until the program is interrupted. -/
partial def watch (program : Program) (hangUps interrupts : Std.Async.Signal.Waiter)
    (handle : Handle) : IO Unit := do
  let told ← (Std.Async.Selectable.one #[
    .case hangUps.selector fun _ => return true,
    .case interrupts.selector fun _ => return false]).block
  if told then
    let reloading ← reading (fun read => (handle.reload (program.world read)).2) []
    (program.reloading reloading).forM IO.println
    match reloading.outcome with
    | .ok published => watch program hangUps interrupts { handle with current := published }
    | .error _ => watch program hangUps interrupts handle
  else program.closing.forM IO.println

/-- Run the program. -/
def run (arguments : List String) : IO UInt32 := do
  let content ← readText Program.environmentPath
  let program := Program.prepare arguments (← environment) content.toOption
  program.command.complaints.forM IO.eprintln
  let loading ← reading program.load []
  (program.opening loading).forM IO.println
  match loading.outcome with
  | .ok handle =>
      if program.command.watches then
        let hangUps ← Std.Async.Signal.Waiter.mk .sighup true
        let interrupts ← Std.Async.Signal.Waiter.mk .sigint false
        watch program hangUps interrupts handle
  | .error _ => pure ()
  return (Program.exitCode loading).toUInt32

end BotConfig.Main

/-- The program takes the files to load as arguments. -/
def main (arguments : List String) : IO UInt32 := BotConfig.Main.run arguments
