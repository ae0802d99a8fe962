/-!
# Path texts

Paths are texts whose pieces are separated by slashes. Empty pieces and single dots carry no meaning
and are skipped, except a single dot that begins a relative path.

## Main definitions

- `Path.join` — a path taken relative to another one
- `Path.parent?`, `Path.fileName?`, `Path.stem?`, `Path.extension?` — the parts of a path
-/

namespace ShadingGraph

namespace Path

/-- A text cut at its slashes; there is one piece more than there are slashes. -/
def splitSlash : List Char → List (List Char)
  | [] => [[]]
  | c :: rest =>
    if c = '/' then [] :: splitSlash rest
    else
      match splitSlash rest with
      | [] => [[c]]
      | piece :: pieces => (c :: piece) :: pieces

/-- Pieces with slashes between them. -/
def joinSlash : List (List Char) → List Char
  | [] => []
  | [piece] => piece
  | piece :: pieces => piece ++ '/' :: joinSlash pieces

/-- Pieces from the last to the first, without those at the end of the path that carry no
meaning. -/
def dropInert : List (List Char) → List (List Char)
  | [] => []
  | piece :: before =>
    if piece = [] ∨ (piece = ['.'] ∧ before ≠ []) then dropInert before else piece :: before

/-- The meaningful pieces up to the last one, from the last to the first. -/
def backward (path : String) : List (List Char) := dropInert (splitSlash path.toList).reverse

/-- Whether a path starts at the root. -/
def isAbsolute (path : String) : Bool := path.toList.head? == some '/'

/-- A path taken relative to a base. An absolute path stands for itself; otherwise one slash
separates the two, unless the base is empty or already ends in one. -/
def join (base path : String) : String :=
  if isAbsolute path then path
  else if base.isEmpty || base.toList.getLast? == some '/' then base ++ path
  else base ++ "/" ++ path

/-- The path without its last piece. The root and the empty path have no parent. -/
def parent? (path : String) : Option String :=
  match backward path with
  | [] => none
  | _ :: before =>
    match dropInert before with
    | [] => some (if isAbsolute path then "/" else "")
    | pieces => some (String.ofList (joinSlash pieces.reverse))

/-- The last piece of a path, unless it is a single or a double dot. -/
def fileName? (path : String) : Option (List Char) :=
  match backward path with
  | [] => none
  | piece :: _ => if piece = ['.'] ∨ piece = ['.', '.'] then none else some piece

/-- What stands before and behind the last dot of a name, if it has a dot. -/
def splitLastDot : List Char → Option (List Char × List Char)
  | [] => none
  | c :: rest =>
    match splitLastDot rest with
    | some (front, back) => some (c :: front, back)
    | none => if c = '.' then some ([], rest) else none

/-- The file name without its extension. A dot at the beginning does not begin an extension. -/
def stem? (path : String) : Option String :=
  (fileName? path).map fun name =>
    match splitLastDot name with
    | some (c :: front, _) => String.ofList (c :: front)
    | _ => String.ofList name

/-- What stands behind the last dot of the file name, unless that dot begins the name. -/
def extension? (path : String) : Option String :=
  (fileName? path).bind fun name =>
    match splitLastDot name with
    | some (_ :: _, back) => some (String.ofList back)
    | _ => none

end Path

end ShadingGraph
