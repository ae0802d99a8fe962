import ShadingGraph.Files.Access
import ShadingGraph.Package
import ShadingGraph.Registry.RenderMan
import ShadingGraph.Ron.Network
import ShadingGraph.Ron.Registry
import ShadingGraph.Settings

/-!
# Loading of documents

Networks and registries are read from files, and what they refer to is looked for in a shader
package right away.

## Main definitions

- `FileAccess.loadNetwork`, `FileAccess.loadRegistry` — documents with their references resolved
- `FileAccess.loadSettings`, `FileAccess.saveSettings` — settings documents
-/

namespace ShadingGraph

/-- Why a network or a registry could not be loaded. -/
inductive LoadError where
  /-- The file could not be read. -/
  | file (path : String) (cause : FileError)
  /-- The file holds no network. -/
  | network (path : String)
  /-- The file holds no registry. -/
  | registry (path : String)
deriving DecidableEq

/-- Why settings could not be loaded or saved. -/
inductive SettingsFileError where
  /-- The file could not be read or written. -/
  | file (cause : FileError)
  /-- The file holds no settings that are supported. -/
  | document (cause : SettingsError)
deriving DecidableEq

/-- The message of a load error. -/
def LoadError.message : LoadError → String
  | .file path cause => "Failed to read " ++ path ++ ": " ++ cause.message
  | .network path => "Invalid material network in " ++ path
  | .registry path => "Invalid shader registry in " ++ path

/-- A settings error in words. -/
def SettingsFileError.message : SettingsFileError → String
  | .file cause => cause.message
  | .document cause => cause.message?.getD "malformed document"

namespace FileAccess

variable {m : Type → Type} [Monad m]

/-- The network with its file references looked for in a package, and how many were found. -/
def resolveAssets (files : FileAccess m) (package : ShaderPackage) (net : MaterialNetwork) :
    m (MaterialNetwork × Nat) := do
  let isFile ← files.probe (package.assetCandidates net)
  return package.resolveAssets isFile net

/-- The registry with the implementations looked for in a package. -/
def resolveImplementations (files : FileAccess m) (package : ShaderPackage) (r : ShaderRegistry) :
    m ShaderRegistry := do
  let isFile ← files.probe (package.implementationCandidates r)
  return package.resolveImplementations isFile r

/-- Loads a network and looks for the files that it refers to. -/
def loadNetwork (files : FileAccess m) (package : ShaderPackage) (path : String) :
    m (Except LoadError MaterialNetwork) := do
  match ← files.read path with
  | .error cause => return .error (.file path cause)
  | .ok text =>
    match MaterialNetwork.ofRon? text with
    | none => return .error (.network path)
    | some net => return .ok (← files.resolveAssets package net).1

/-- Loads a registry, or takes the builtin one, and looks for the implementations. -/
def loadRegistry (files : FileAccess m) (package : ShaderPackage) :
    Option String → m (Except LoadError ShaderRegistry)
  | none => return .ok (← files.resolveImplementations package RenderMan.registry)
  | some path => do
    match ← files.read path with
    | .error cause => return .error (.file path cause)
    | .ok text =>
      match ShaderRegistry.ofRon? text with
      | none => return .error (.registry path)
      | some r => return .ok (← files.resolveImplementations package r)

/-- Loads settings. -/
def loadSettings (files : FileAccess m) (path : String) :
    m (Except SettingsFileError Settings) := do
  match ← files.read path with
  | .error cause => return .error (.file cause)
  | .ok text =>
    match Settings.ofRon text with
    | .error cause => return .error (.document cause)
    | .ok s => return .ok s

/-- Saves settings. -/
def saveSettings (files : FileAccess m) (path : String) (s : Settings) :
    m (Except SettingsFileError Unit) := do
  match ← files.write path s.toRon with
  | .error cause => return .error (.file cause)
  | .ok () => return .ok ()

end FileAccess

end ShadingGraph
