import ShadingGraph.Command.ImageFormats
import ShadingGraph.Command.Program

/-!
# Command line

The program on the files of the machine, with the common formats of images.

## Main definitions

- `machineFiles` — the files of the machine
- `main` — runs the program, and goes on watching the network document where that is asked for
-/

namespace ShadingGraph

/-- The cause of a failed access. -/
def fileErrorOf : IO.Error → FileError
  | .noFileOrDirectory .. => .notFound
  | .inappropriateType _ 20 _ => .notADirectory
  | .inappropriateType .. => .isADirectory
  | .invalidArgument _ 36 _ => .nameTooLong
  | .invalidArgument .. => .invalidPath
  | .userError _ => .notText
  | _ => .refused

/-- Carries an access out and keeps the cause where it fails. -/
def attempt {α : Type} (action : IO α) : IO (Except FileError α) := do
  try
    return .ok (← action)
  catch e =>
    return .error (fileErrorOf e)

/-- Whether a path names a file, which is not opened for that. -/
def isFile (path : String) : IO Bool := do
  match ← attempt (do (← IO.FS.realPath path).metadata) with
  | .ok metadata => return metadata.type == .file
  | .error _ => return false

/-- The files of the machine. -/
def machineFiles : FileAccess IO where
  read path := attempt (IO.FS.readFile path)
  write path text := attempt (IO.FS.writeFile path text)
  probe paths := do
    let found ← paths.filterM isFile
    return fun path => found.contains path

/-- The text of the network document, where it can be read. -/
def networkText? (c : CommandLine) : IO (Option String) := do
  return (← machineFiles.read (c.network.getD "")).toOption

/-- Waits for changes of the network document and reacts to each, without an end. -/
partial def watch (c : CommandLine) (pause : UInt32) (seen : Option String) (s : Session) :
    IO Unit := do
  IO.sleep pause
  let now ← networkText? c
  if now = seen then watch c pause seen s
  else
    let (s, described) ← Program.react machineFiles c s
    match described with
    | .ok text => IO.print text
    | .error e => IO.eprintln e.message
    watch c pause now s

/-- A run that watches its network document after its first sync. -/
def runWatching (c : CommandLine) : IO UInt32 := do
  match ← Program.loadSettings machineFiles c with
  | .error e =>
    IO.eprintln e.message
    return 1
  | .ok (settings, base) =>
    let seen ← networkText? c
    match ← Program.sync machineFiles isCommonImage c settings base with
    | .error e =>
      IO.eprintln e.message
      return 1
    | .ok (s, report) =>
      IO.print (Program.describe c s report)
      watch c (max 50 settings.watchDebounce.toUInt32) seen s
      return 0

/-- A run that ends. -/
def runOnce (arguments : List String) : IO UInt32 := do
  let outcome ← Program.run machineFiles isCommonImage arguments
  IO.print outcome.output
  IO.eprint outcome.errors
  return outcome.exit

end ShadingGraph

/-- The entry point of the program. -/
def main (arguments : List String) : IO UInt32 :=
  match ShadingGraph.CommandLine.ofArguments arguments with
  | .ok c =>
    if c.watch && !c.help && c.writeSettings.isNone then ShadingGraph.runWatching c
    else ShadingGraph.runOnce arguments
  | .error _ => ShadingGraph.runOnce arguments
