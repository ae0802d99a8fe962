import ShadingGraph.Shading.Asset

/-!
# Common formats of images

The formats of images are up to the plugin that reads them. This is the instance that the program
runs with.

## Main definitions

- `isCommonImage` — whether a path has an extension of a common format
-/

namespace ShadingGraph

/-- The extensions of common formats of images. -/
def commonImageExtensions : List String :=
  [ "avif", "jpg", "jpeg", "jfif", "png", "apng", "gif", "webp", "tif", "tiff", "tga", "dds", "bmp",
    "ico", "hdr", "exr", "pbm", "pam", "ppm", "pgm", "pnm", "ff", "qoi" ]

/-- Whether a path has an extension of a common format. -/
def isCommonImage : String → Bool := imagesByExtension commonImageExtensions

end ShadingGraph
