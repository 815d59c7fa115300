import Keyscan.CommandLine.Help
import Keyscan.CommandLine.Run

/-!
The program: it reads the files that its command names, runs the command, and writes what came out.
-/

set_option autoImplicit false

namespace Keyscan.CommandLine

/-- The content of a file, or the text of the failure to read it. -/
def readPath (path : String) : IO (String × Except String String) := do
  try
    let content ← IO.FS.readFile path
    return (path, .ok content)
  catch
    | .noFileOrDirectory .. => return (path, .error "No such file or directory (os error 2)")
    | e => return (path, .error (toString e))

/-- The files at the paths, read beforehand. -/
def readPaths (paths : List String) : IO Files := do
  let contents ← paths.mapM readPath
  return fun path => (contents.lookup path).getD (.error "the file has not been read")

/-- Answers arguments that make no command; the exit code is 0 for a question and 2 for a fault. -/
def explainUsage (e : UsageError) : IO UInt32 := do
  if e.isQuestion then
    IO.println e.message
    return 0
  else
    IO.eprintln e.message
    return 2

/-- Runs a command; the exit code is 1 when it fails. -/
def runCommand (command : Command) : IO UInt32 := do
  let files ← readPaths command.paths
  let outcome := run files command
  IO.print outcome.output.stdout
  IO.eprint outcome.output.stderr
  match outcome.result with
  | .ok () => return 0
  | .error e =>
      IO.eprintln e.display
      return 1

end Keyscan.CommandLine

open Keyscan.CommandLine in
def main (arguments : List String) : IO UInt32 :=
  match parse arguments with
  | .ok command => runCommand command
  | .error e => explainUsage e
