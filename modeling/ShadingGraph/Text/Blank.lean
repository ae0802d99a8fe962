import ShadingGraph.Text.CodePoints

/-!
# Blank characters

Two standard classes of blanks. `White_Space` is what trimming removes; `Pattern_White_Space`, which
is fixed for all versions of the standard, separates the tokens of a document.

## Main definitions

- `CodePointSet.whiteSpace`, `CodePointSet.patternWhiteSpace`
- `trimBlank` — a text without the white space at its ends
-/

namespace ShadingGraph

/-- The code points with the property White_Space. -/
def CodePointSet.whiteSpace : CodePointSet where
  changes := [
    9, 14, 32, 33, 133, 134, 160, 161, 5760, 5761, 8192, 8203, 8232, 8234, 8239, 8240, 8287,
    8288, 12288, 12289]

/-- The code points with the property Pattern_White_Space. -/
def CodePointSet.patternWhiteSpace : CodePointSet where
  changes := [
    9, 14, 32, 33, 133, 134, 8206, 8208, 8232, 8234]

/-- A character that trimming removes. -/
def isWhiteSpace (c : Char) : Bool := CodePointSet.whiteSpace.contains c

/-- A character that separates tokens. -/
def isPatternBlank (c : Char) : Bool := CodePointSet.patternWhiteSpace.contains c

/-- A text without the white space at its beginning and end. -/
def trimBlank (s : List Char) : List Char :=
  ((s.dropWhile isWhiteSpace).reverse.dropWhile isWhiteSpace).reverse

end ShadingGraph
