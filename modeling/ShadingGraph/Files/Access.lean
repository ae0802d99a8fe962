/-!
# Access to files

What the program needs of a file system. The same program runs on the files of the machine and on a
tree of files that is a value, because it asks for files only through this record.

## Main definitions

- `FileError` — why a file could not be read or written
- `FileAccess` — reading, writing and looking for files in a monad
-/

namespace ShadingGraph

/-- Why a file could not be read or written. -/
inductive FileError where
  /-- There is no such file, or no directory to hold it. -/
  | notFound
  /-- The path names a directory. -/
  | isADirectory
  /-- The path goes through something that is no directory. -/
  | notADirectory
  /-- The path holds a null character. -/
  | invalidPath
  /-- The path, or a name in it, is longer than a file system allows. -/
  | nameTooLong
  /-- The file is not a text. -/
  | notText
  /-- Any other refusal. -/
  | refused
deriving DecidableEq

/-- A file error in words. -/
def FileError.message : FileError → String
  | .notFound => "no such file or directory"
  | .isADirectory => "is a directory"
  | .notADirectory => "not a directory"
  | .invalidPath => "path holds a null character"
  | .nameTooLong => "name too long"
  | .notText => "not a text"
  | .refused => "access refused"

/-- A file system as a program uses it. -/
structure FileAccess (m : Type → Type) where
  /-- The text of a file. -/
  read : String → m (Except FileError String)
  /-- Writes a text to a file, which is created where it does not exist. -/
  write : String → String → m (Except FileError Unit)
  /-- Which of the given paths are files. -/
  probe : List String → m (String → Bool)

end ShadingGraph
