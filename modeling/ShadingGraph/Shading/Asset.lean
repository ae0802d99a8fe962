import ShadingGraph.Files.Path
import ShadingGraph.Registry.RenderMan
import ShadingGraph.Shading.Node

/-!
# File references for the renderer

The renderer reads its own texture format directly and other images through a plugin, which is named
in front of the path. Which files are images is up to the plugin.

## Main definitions

- `AssetPath.reference` — the text that the renderer is given for a file reference
- `imagesByExtension` — images that are told by the extensions of their formats
-/

namespace ShadingGraph

/-- The plugin that reads images. -/
def imagePlugin : String := "rtxplugin:RtxHioImage"

/-- The parameter that holds the texture of a light. -/
def lightTextureParameter : String := "texture:file"

/-- The extension of the renderer's own texture format. -/
def nativeTextureExtension : String := "tex"

/-- A path behind the name of the image plugin. -/
def imagePluginReference (path : String) : String :=
  imagePlugin ++ pluginSuffix ++ "?filename=" ++ path

namespace AssetPath

variable (isImage : String → Bool)

/-- The text for a file that was found: native textures as they are, the texture of a light through
the plugin and unflipped, other images through the plugin, and all else as it is. -/
def resolvedReference (parameter : String) (kind : ShadingKind) (path : String) : String :=
  if Path.extension? path = some nativeTextureExtension then path
  else if kind = .light ∧ parameter = lightTextureParameter then
    imagePluginReference path ++ "&flipped=false"
  else if isImage path then imagePluginReference path
  else path

/-- The text that the renderer is given for a file reference. What was not found is passed on as
authored. -/
def reference (parameter : String) (a : AssetPath) (kind : ShadingKind) : String :=
  match a.resolvedPath with
  | none => a.authored
  | some path => resolvedReference isImage parameter kind path

end AssetPath

/-- The files with one of some extensions are images; the letter case does not count. -/
def imagesByExtension (extensions : List String) (path : String) : Bool :=
  match Path.extension? path with
  | some extension => extensions.contains extension.toLower
  | none => false

end ShadingGraph
