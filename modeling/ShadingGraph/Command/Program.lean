import ShadingGraph.Command.Arguments
import ShadingGraph.Loading
import ShadingGraph.Session

/-!
# The program

One run of the program: it reads its arguments and its settings, and then either writes the settings
or loads a registry and a network, syncs a material, and writes what it did. The run is a
computation over an arbitrary file system and arbitrary formats of images; what it writes to the
terminal is part of its outcome.

## Main definitions

- `Outcome` — the exit code and what is written
- `ProgramError` — why a run fails
- `Program.sync` — the sync of a run
- `Program.run` — the run
- `Program.react` — what a run that goes on does about a change of its network document
-/

namespace ShadingGraph

/-- What a run of the program leaves behind besides files. -/
structure Outcome where
  exit : UInt32
  output : String
  /-- What is written to the error stream. -/
  errors : String
deriving DecidableEq

/-- Why a run fails. -/
inductive ProgramError where
  /-- A network or a registry could not be loaded. -/
  | load (cause : LoadError)
  /-- A settings document could not be loaded or saved. -/
  | settings (path : String) (cause : SettingsFileError)
  /-- The sync met as many problems as the number says. -/
  | sync (problems : Nat)
deriving DecidableEq

/-- The message of a failed run. -/
def ProgramError.message : ProgramError → String
  | .load cause => cause.message
  | .settings path cause => "Failed to load settings " ++ path ++ ": " ++ cause.message
  | .sync problems => "Sync finished with " ++ String.ofList (digitsOf problems) ++ " error(s)"

namespace Outcome

/-- A run that went well. -/
def success (output : String) : Outcome := ⟨0, output, ""⟩

/-- A run that failed, and what it wrote before. -/
def failure (output : String) (e : ProgramError) : Outcome :=
  ⟨1, output, "shadenet failed: " ++ e.message ++ "\n"⟩

/-- Arguments that were refused: the message and the help text. -/
def refusal (e : UsageError) : Outcome := ⟨2, "", e.message ++ "\n\n" ++ usage ++ "\n"⟩

end Outcome

namespace Program

variable {m : Type → Type} [Monad m]

/-- The settings of a run, and the directory that relative package roots start from. -/
def loadSettings (files : FileAccess m) (c : CommandLine) :
    m (Except ProgramError (Settings × String)) := do
  let isFile ← files.probe [c.settingsBeside]
  match c.settingsPath? isFile with
  | none => return .ok (.standard, c.networkDirectory?.getD "")
  | some path =>
    match ← files.loadSettings path with
    | .error cause => return .error (.settings path cause)
    | .ok s => return .ok (s, (Path.parent? path).getD "")

/-- The sync of a run: the session behind it and the report. -/
def sync (files : FileAccess m) (isImage : String → Bool) (c : CommandLine) (s : Settings)
    (base : String) : m (Except ProgramError (Session × SyncReport)) := do
  let package := s.package base
  match ← files.loadRegistry package c.registry with
  | .error cause => return .error (.load cause)
  | .ok registry =>
    match ← files.loadNetwork package (c.network.getD "") with
    | .error cause => return .error (.load cause)
    | .ok net =>
      return .ok ((Session.start c.materialId registry (s.sync isImage) package).sync (some net))

/-- What is written about a sync: the listing if it is asked for, and the report or the summary. -/
def describe (c : CommandLine) (s : Session) (r : SyncReport) : String :=
  (if c.dump then s.listing ++ "\n" else "") ++
    if c.json then s.report r ++ "\n" else s.summary r

/-- The outcome of a sync. A sync with problems is described like any other. -/
def syncOutcome (c : CommandLine) (s : Session) (r : SyncReport) : Outcome :=
  if r.isClean then .success (describe c s r)
  else .failure (describe c s r) (.sync r.errors.length)

/-- What a run does once its settings are known. -/
def perform (files : FileAccess m) (isImage : String → Bool) (c : CommandLine) (s : Settings)
    (base : String) : m Outcome := do
  match c.writeSettings with
  | some path =>
    match ← files.saveSettings path s with
    | .error cause => return .failure "" (.settings path cause)
    | .ok () => return .success ""
  | none =>
    match ← sync files isImage c s base with
    | .error e => return .failure "" e
    | .ok (session, report) => return syncOutcome c session report

/-- One run of the program. -/
def run (files : FileAccess m) (isImage : String → Bool) (arguments : List String) :
    m Outcome := do
  match CommandLine.ofArguments arguments with
  | .error e => return .refusal e
  | .ok c =>
    if c.help then return .success (usage ++ "\n")
    else
      match ← loadSettings files c with
      | .error e => return .failure "" e
      | .ok (s, base) => perform files isImage c s base

/-! ## Changes of the network document -/

/-- Brings a session in line with the network document, which has changed or is gone, and describes
what that did. A document that cannot be loaded leaves the session as it is. -/
def react (files : FileAccess m) (c : CommandLine) (s : Session) :
    m (Session × Except LoadError String) := do
  match ← files.loadNetwork s.package (c.network.getD "") with
  | .ok net =>
    let (s, report) := s.sync (some net)
    return (s, .ok (describe c s report))
  | .error (.file _ .notFound) =>
    let (s, report) := s.finalize
    return (s, .ok (describe c s report))
  | .error e => return (s, .error e)

end Program

end ShadingGraph
