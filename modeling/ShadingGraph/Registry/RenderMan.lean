import ShadingGraph.Registry.Basic

/-!
# The RenderMan shader set

The shaders that a material commonly routes through: surfaces and volumes, a layered surface fed by
a vstruct, texture and utility patterns, displacement, lights and light filters. Implementations are
bare file names; whoever needs a path looks them up in a package.

## Main definitions

- `RenderMan.shaders` — the descriptors in order
- `RenderMan.registry` — the registry of these shaders
-/

namespace ShadingGraph

/-- The source type of shaders in the Open Shading Language. -/
def oslSource : String := "OSL"

/-- The source type of compiled shader plugins. -/
def pluginSource : String := "RmanCpp"

/-- The suffix of the file name of a plugin. -/
def pluginSuffix : String := ".so"

namespace RenderMan

/-- The identifier of the pattern that displaces. -/
def displacePattern : String := "PxrDisplace"

/-- A shader in the Open Shading Language. -/
def osl (identifier context : String) (inputs outputs : List ShaderProperty) : ShaderDescriptor :=
  ((ShaderDescriptor.ofIdentifier identifier oslSource context).withImplementation
    (identifier ++ ".oso")).withProperties inputs outputs

/-- A compiled shader plugin. -/
def plugin (identifier context : String) (inputs outputs : List ShaderProperty) :
    ShaderDescriptor :=
  ((ShaderDescriptor.ofIdentifier identifier pluginSource context).withImplementation
    (identifier ++ pluginSuffix)).withProperties inputs outputs

/-- The output of a surface or a volume. -/
def bxdfOutput : ShaderProperty := .named "bxdf_out" (.other "bxdf")

/-- Surfaces and volumes. -/
def bxdfs : List ShaderDescriptor :=
  [ plugin "PxrSurface" "bxdf"
      [ .named "diffuseGain" .float,
        .named "diffuseColor" .color,
        .named "specularFaceColor" .color,
        .named "specularRoughness" .float,
        (ShaderProperty.named "specularModelType" .int).withOptions
          [("Beckmann", "0"), ("GGX", "1")],
        .named "bumpNormal" .normal,
        .named "presence" .float ]
      [bxdfOutput],
    plugin "PxrLayerSurface" "bxdf"
      [ .named "inputMaterial" .vstruct,
        (ShaderProperty.named "diffuseGain" .float).asMember "inputMaterial" "diffuseGain",
        (ShaderProperty.named "diffuseColor" .color).asMember "inputMaterial" "diffuseColor",
        (ShaderProperty.named "specularRoughness" .float).asMember
          "inputMaterial" "specularRoughness" ]
      [bxdfOutput],
    plugin "PxrVolume" "bxdf"
      [ .named "diffuseColor" .color,
        .named "densityFloat" .float,
        .named "densityFloatPrimVar" .string ]
      [bxdfOutput] ]

/-- Patterns that feed other shaders. -/
def patterns : List ShaderDescriptor :=
  [ osl "PxrLayer" "pattern"
      [ .named "diffuseGain" .float,
        .named "diffuseColor" .color,
        .named "specularRoughness" .float ]
      [ .named "pxrMaterialOut" .vstruct,
        (ShaderProperty.named "diffuseGain" .float).asMember "pxrMaterialOut" "diffuseGain",
        (ShaderProperty.named "diffuseColor" .color).asMember "pxrMaterialOut" "diffuseColor",
        (ShaderProperty.named "specularRoughness" .float).asMember
          "pxrMaterialOut" "specularRoughness" ],
    osl "PxrManifold2D" "pattern"
      [ .named "scaleS" .float,
        .named "scaleT" .float,
        .named "angle" .float,
        .named "offsetS" .float,
        .named "offsetT" .float ]
      [.named "result" .struct],
    osl "PxrTexture" "pattern"
      [ .named "filename" .string,
        .named "firstChannel" .int,
        .named "linearize" .int,
        .named "missingColor" .color,
        (ShaderProperty.named "atlasStyle" .int).withOptions
          [("None", "0"), ("UDIM (Mari)", "1"), ("UDIM (Mudbox)", "2"), ("Mudbox", "3")],
        .named "manifold" .struct ]
      [ .named "resultRGB" .color,
        .named "resultR" .float,
        .named "resultA" .float ],
    osl "PxrNormalMap" "pattern"
      [ .named "filename" .string,
        .named "bumpScale" .float,
        .named "invertBump" .int ]
      [.named "resultN" .normal],
    osl "PxrPrimvar" "pattern"
      [ .named "varname" .string,
        .named "type" .string,
        .named "defaultFloat3" .vector ]
      [ .named "resultF" .float,
        .named "resultI" .int,
        .named "resultRGB" .color,
        .named "resultP" .point,
        .named "resultN" .normal,
        .named "resultV" .vector,
        .named "resultS" .string ],
    osl "PxrDispTransform" "pattern"
      [ .named "dispScalar" .float,
        .named "dispVector" .vector,
        .named "dispHeight" .float,
        (ShaderProperty.named "dispRemapMode" .int).withOptions
          [("None", "0"), ("Centered", "1"), ("Interpolate", "2")] ]
      [ .named "resultF" .float,
        .named "resultXYZ" .vector ] ]

/-- Displacement. The shader is declared as a pattern and told apart by its identifier. -/
def displacements : List ShaderDescriptor :=
  [ osl displacePattern "OSL"
      [ .named "dispAmount" .float,
        .named "dispScalar" .float,
        .named "dispVector" .vector,
        .named "modelDispVector" .vector,
        .named "enabled" .int,
        .named "displacementBound" .unspecified ]
      [.named "displacement" (.other "displacement")] ]

/-- Lights and light filters. -/
def lights : List ShaderDescriptor :=
  [ plugin "PxrRectLight" "light"
      [ .named "intensity" .float,
        .named "exposure" .float,
        .named "lightColor" .color,
        .named "enableTemperature" .int,
        .named "temperature" .float,
        (ShaderProperty.named "texture:file" .string).withImplementationName "lightColorMap" ]
      [],
    plugin "PxrDomeLight" "light"
      [ .named "intensity" .float,
        .named "exposure" .float,
        .named "lightColor" .color,
        (ShaderProperty.named "texture:file" .string).withImplementationName "lightColorMap" ]
      [],
    plugin "PxrBarnLightFilter" "lightFilter"
      [ (ShaderProperty.named "barnMode" .int).withOptions
          [("physical", "0"), ("analytic", "1")],
        .named "width" .float,
        .named "height" .float,
        .named "edge" .float ]
      [] ]

/-- All shaders of the set in order. -/
def shaders : List ShaderDescriptor := bxdfs ++ patterns ++ displacements ++ lights

/-- The registry of the set. -/
def registry : ShaderRegistry := .ofList shaders

end RenderMan

end ShadingGraph
