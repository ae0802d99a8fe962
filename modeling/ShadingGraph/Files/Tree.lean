import ShadingGraph.Files.Access
import ShadingGraph.Files.Path
import ShadingGraph.OrderedMap

/-!
# File trees

A file system as a value: directories and files by their place in the tree, and the directory that
relative paths start from. A file need not hold a text, and access to it may be refused.

## Main definitions

- `FileTree` — the entries of a tree
- `FileTree.locate` — the place that a path names
- `FileTree.read`, `FileTree.write`, `FileTree.isFile` — the operations
- `FileTree.access` — the operations as access to files
-/

namespace ShadingGraph

/-- A place in a tree: the names on the way from the root. -/
abbrev Location := List (List Char)

/-- What stands at a place of a tree. -/
inductive FileEntry where
  | directory
  | file (text : String)
  /-- A file whose bytes are no text. -/
  | binary
  /-- A file that may neither be read nor written. -/
  | locked
deriving DecidableEq

/-- Directories and files by their place. -/
structure FileTree where
  entries : OrderedMap Location FileEntry
  /-- The directory that relative paths start from. -/
  workingDirectory : Location

namespace FileTree

/-- What stands at a place. The root is always a directory. -/
def entry? (t : FileTree) (place : Location) : Option FileEntry :=
  if place = [] then some .directory else t.entries.find? place

/-- The place one piece of a path further: an empty piece and a single dot stay, a double dot goes
back. -/
def follow (place : Location) (piece : List Char) : Location :=
  if piece = [] ∨ piece = ['.'] then place
  else if piece = ['.', '.'] then place.dropLast
  else place ++ [piece]

/-- The number of bytes that a name may have. -/
def nameLimit : Nat := 255

/-- The number of bytes that a path may have. -/
def pathLimit : Nat := 4095

/-- Follows the pieces of a path. Every place but the last has to be a directory. -/
def walk (t : FileTree) : Location → List (List Char) → Except FileError Location
  | place, [] => .ok place
  | place, piece :: pieces =>
    match t.entry? place with
    | none => .error .notFound
    | some .directory =>
      if nameLimit < (String.ofList piece).utf8ByteSize then .error .nameTooLong
      else t.walk (follow place piece) pieces
    | some _ => .error .notADirectory

/-- Why a path cannot be followed in any tree, if it cannot. -/
def refusal? (path : String) : Option FileError :=
  if '\x00' ∈ path.toList then some .invalidPath
  else if path.isEmpty then some .notFound
  else if pathLimit < path.utf8ByteSize then some .nameTooLong
  else none

/-- The place that a path starts from. -/
def start (t : FileTree) (path : String) : Location :=
  if Path.isAbsolute path then [] else t.workingDirectory

/-- The place that a path names. -/
def locate (t : FileTree) (path : String) : Except FileError Location :=
  match refusal? path with
  | some e => .error e
  | none => t.walk (t.start path) (Path.splitSlash path.toList)

/-- What a path names. -/
def find (t : FileTree) (path : String) : Except FileError FileEntry :=
  match t.locate path with
  | .error e => .error e
  | .ok place =>
    match t.entry? place with
    | none => .error .notFound
    | some entry => .ok entry

/-- Whether a path names a file, be it one that can be read or not. -/
def isFile (t : FileTree) (path : String) : Bool :=
  match t.find path with
  | .ok entry => decide (entry ≠ .directory)
  | .error _ => false

/-- The text of a file. -/
def read (t : FileTree) (path : String) : Except FileError String :=
  match t.find path with
  | .error e => .error e
  | .ok .directory => .error .isADirectory
  | .ok (.file text) => .ok text
  | .ok .binary => .error .notText
  | .ok .locked => .error .refused

/-- The pieces before the last name of a path, and an empty piece for the directory they lead to. -/
def piecesToParent (path : String) : List (List Char) :=
  (((Path.splitSlash path.toList).reverse.dropWhile List.isEmpty).drop 1).reverse ++ [[]]

/-- Writes a file, in a directory that exists. A path with a slash at its end names no file,
whatever its last name is, so only the directory of that name is looked for. -/
def write (t : FileTree) (path text : String) : Except FileError FileTree :=
  if path.toList.getLast? = some '/' then
    match refusal? path with
    | some e => .error e
    | none =>
      match t.walk (t.start path) (piecesToParent path) with
      | .error e => .error e
      | .ok _ => .error .isADirectory
  else
    match t.locate path with
    | .error e => .error e
    | .ok place =>
      match t.entry? place with
      | some .directory => .error .isADirectory
      | some .locked => .error .refused
      | _ => .ok { t with entries := t.entries.insert place (.file text) }

/-- Removes a file, and says whether there was one. -/
def remove (t : FileTree) (path : String) : Bool × FileTree :=
  match t.isFile path, t.locate path with
  | true, .ok place => (true, { t with entries := t.entries.erase place })
  | _, _ => (false, t)

/-- Follows the pieces of a path and adds a directory at every place on the way where there is
nothing. A double dot goes back from a directory that has been added. -/
def addDirectories (t : FileTree) (place : Location) : List (List Char) → FileTree × Location
  | [] => (t, place)
  | piece :: pieces =>
    let place := follow place piece
    let t :=
      match t.entry? place with
      | some _ => t
      | none => { t with entries := t.entries.insert place .directory }
    t.addDirectories place pieces

/-- The tree of a working directory without files. -/
def ofWorkingDirectory (place : Location) : FileTree :=
  (({ entries := ∅, workingDirectory := place } : FileTree).addDirectories [] place).1

/-- Adds a file at a path, with the directories on the way to it. A path with a slash at its end
adds a directory. -/
def add (t : FileTree) (path text : String) : FileTree :=
  let start := t.start path
  let pieces := Path.splitSlash path.toList
  if path.toList.getLast? = some '/' then (t.addDirectories start pieces).1
  else
    let (t, directory) := t.addDirectories start pieces.dropLast
    let place := follow directory (pieces.getLast?.getD [])
    { t with entries := t.entries.insert place (.file text) }

/-- The tree as a file system, in a program whose state it is. -/
def access : FileAccess (StateM FileTree) where
  read path := do return (← get).read path
  write path text := do
    match (← get).write path text with
    | .error e => return .error e
    | .ok t => do
      set t
      return .ok ()
  probe _ := do return (← get).isFile

end FileTree

end ShadingGraph
