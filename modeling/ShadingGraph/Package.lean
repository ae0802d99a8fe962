import ShadingGraph.Files.Path
import ShadingGraph.Network.Basic
import ShadingGraph.Registry.Basic

/-!
# Shader packages

A package is a list of directories that hold shader implementations and textures. What is found
there replaces what documents and registries say about the place of a file.

## Main definitions

- `ShaderPackage.candidates`, `ShaderPackage.find` — looking a file up
- `ShaderPackage.resolveAssets` — file references of a network
- `ShaderPackage.resolveImplementations` — implementations of a registry
-/

namespace ShadingGraph

/-- The directories that files are looked for in, in order. -/
structure ShaderPackage where
  roots : List String
deriving DecidableEq, Inhabited

namespace ShaderPackage

/-- The directory of a root that holds shader implementations. -/
def shadersDirectory : String := "shaders"

/-- The directory of a root that holds textures. -/
def texturesDirectory : String := "textures"

/-- The paths at which a file can be, in the order of preference: an absolute path stands for
itself, any other is looked for under every root, and the empty one is nowhere. -/
def candidates (p : ShaderPackage) (directory name : String) : List String :=
  if name.isEmpty then []
  else if Path.isAbsolute name then [name]
  else p.roots.map fun root => Path.join (Path.join root directory) name

/-- The first of these paths that is a file. -/
def find (p : ShaderPackage) (isFile : String → Bool) (directory name : String) : Option String :=
  (p.candidates directory name).find? isFile

/-! ## File references -/

/-- The file reference that still has to be found. -/
def unresolved? : Value → Option AssetPath
  | .asset a => if a.resolvedPath.isSome then none else some a
  | _ => none

/-- Looks for the file of a parameter of a node, writes where it is, and counts it. A parameter that
is no file reference, or whose file has been found before, is passed over. -/
def resolveParameter (p : ShaderPackage) (isFile : String → Bool) (s : MaterialNode × Nat)
    (name : String) : MaterialNode × Nat :=
  match (s.1.parameter name).bind unresolved? with
  | none => s
  | some a =>
    match p.find isFile texturesDirectory a.authored with
    | none => s
    | some found => (s.1.setParameter name (.asset { a with resolved := some found }), s.2 + 1)

/-- Looks for the files of all parameters of the node at a path, one after another. -/
def resolveNode (p : ShaderPackage) (isFile : String → Bool) (s : MaterialNetwork × Nat)
    (path : String) : MaterialNetwork × Nat :=
  match s.1.node? path with
  | none => s
  | some node =>
    let (node, count) := node.parameters.keys.foldl (p.resolveParameter isFile) (node, s.2)
    (s.1.modifyNode path fun _ => node, count)

/-- Looks for the files of all nodes, one after another, and says how many were found. -/
def resolveAssets (p : ShaderPackage) (isFile : String → Bool) (net : MaterialNetwork) :
    MaterialNetwork × Nat :=
  net.paths.foldl (p.resolveNode isFile) (net, 0)

/-- All authored values of a network. -/
def valuesOf (net : MaterialNetwork) : List Value :=
  net.nodes.values.flatMap fun n => n.parameters.values

/-- All paths that the resolution of file references asks about. -/
def assetCandidates (p : ShaderPackage) (net : MaterialNetwork) : List String :=
  ((valuesOf net).filterMap unresolved?).flatMap fun a => p.candidates texturesDirectory a.authored

/-! ## Implementations -/

/-- The shader with the implementation that was found for it; otherwise it stays as it is. -/
def resolveDescriptor (p : ShaderPackage) (isFile : String → Bool) (d : ShaderDescriptor) :
    ShaderDescriptor :=
  match p.find isFile shadersDirectory d.implementationUri with
  | some found => { d with resolvedUri := found }
  | none => d

/-- The registry with the implementations that were found for its shaders. A package without roots
changes nothing. -/
def resolveImplementations (p : ShaderPackage) (isFile : String → Bool) (r : ShaderRegistry) :
    ShaderRegistry :=
  if p.roots.isEmpty then r else r.mapDescriptors (p.resolveDescriptor isFile)

/-- All paths that the resolution of implementations asks about. -/
def implementationCandidates (p : ShaderPackage) (r : ShaderRegistry) : List String :=
  r.descriptors.flatMap fun d => p.candidates shadersDirectory d.implementationUri

end ShaderPackage

end ShadingGraph
