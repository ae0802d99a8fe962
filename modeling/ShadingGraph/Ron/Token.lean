import ShadingGraph.Text.Blank
import ShadingGraph.Text.Identifier

/-!
# Tokens of RON documents

The parts that every construct of a RON document is made of. A reader takes the rest of a document
and gives back what it read with the rest behind it, or nothing where the document is malformed.

## Main definitions

- `Ron.skipGap` — skips blanks and comments
- `Ron.expect`, `Ron.readComma` — single marks
- `Ron.readIdentifier`, `Ron.skipWord` — identifiers and fixed words
-/

namespace ShadingGraph

namespace Ron

/-- What a gap between tokens is inside of. -/
inductive Gap where
  /-- Between blanks. -/
  | blank
  /-- A comment that ends with the line. -/
  | line
  /-- A comment between marks, inside as many further ones as the number says. -/
  | block (depth : Nat)

/-- Skips blanks, line comments and nested block comments. A slash that begins no comment and a
block comment without an end are malformed. -/
def skipGapFrom : Gap → List Char → Option (List Char)
  | .blank, [] => some []
  | .blank, '/' :: '/' :: rest => skipGapFrom .line rest
  | .blank, '/' :: '*' :: rest => skipGapFrom (.block 0) rest
  | .blank, c :: rest =>
    if c = '/' then none
    else if isPatternBlank c then skipGapFrom .blank rest
    else some (c :: rest)
  | .line, [] => some []
  | .line, c :: rest => if c = '\n' then skipGapFrom .blank rest else skipGapFrom .line rest
  | .block _, [] => none
  | .block depth, '/' :: '*' :: rest => skipGapFrom (.block (depth + 1)) rest
  | .block 0, '*' :: '/' :: rest => skipGapFrom .blank rest
  | .block (depth + 1), '*' :: '/' :: rest => skipGapFrom (.block depth) rest
  | .block depth, _ :: rest => skipGapFrom (.block depth) rest

/-- Skips the gap before the next token. -/
def skipGap (s : List Char) : Option (List Char) := skipGapFrom .blank s

/-- Takes a mark away that has to come next. -/
def expect (mark : Char) : List Char → Option (List Char)
  | [] => none
  | c :: rest => if c = mark then some rest else none

/-- Takes a fixed beginning away. -/
def dropExact? : List Char → List Char → Option (List Char)
  | [], s => some s
  | _ :: _, [] => none
  | c :: word, d :: rest => if c = d then dropExact? word rest else none

/-- Skips an optional comma with the gaps around it, and says whether there was one. -/
def readComma (s : List Char) : Option (Bool × List Char) := do
  let s ← skipGap s
  match s with
  | ',' :: rest => (skipGap rest).map (true, ·)
  | _ => some (false, s)

/-- Whether the next character would continue an identifier. -/
def continuesIdentifier : List Char → Bool
  | [] => false
  | c :: _ => isIdentifierContinue c

/-- Takes a word away, unless it goes on as a longer identifier. -/
def skipWord (word s : List Char) : Option (List Char) :=
  match dropExact? word s with
  | some rest => if continuesIdentifier rest then none else some rest
  | none => none

/-- The beginnings of byte literals, byte strings and raw strings, which are no identifiers. -/
def literalStarts : List (List Char) :=
  [ ['b', '"'], ['b', '\''], ['b', 'r', '"'], ['b', 'r', '#', '"'], ['b', 'r', '#', '#'],
    ['r', '"'], ['r', '#', '"'], ['r', '#', '#'] ]

/-- Whether a literal begins here rather than an identifier. -/
def startsLiteral (s : List Char) : Bool := literalStarts.any fun start => start.isPrefixOf s

/-- The characters of an identifier that is written raw. -/
def isRawIdentifierChar (c : Char) : Bool :=
  c = '.' || c = '+' || c = '-' || isIdentifierContinue c

/-- An identifier as the beginning of a value. A raw identifier has a mark in front of it and may
hold dots and signs. -/
def readWord (s : List Char) : Option (List Char × List Char) :=
  if startsLiteral s then none
  else
    match s with
    | 'r' :: '#' :: rest =>
      let name := rest.takeWhile isRawIdentifierChar
      if name.isEmpty then none else some (name, rest.dropWhile isRawIdentifierChar)
    | c :: rest =>
      if isIdentifierStart c then
        some (c :: rest.takeWhile isIdentifierContinue, rest.dropWhile isIdentifierContinue)
      else none
    | [] => none

/-- An identifier that names a field, a variant or a struct. It must not run into characters that
only a raw identifier may hold. -/
def readIdentifier (s : List Char) : Option (List Char × List Char) := do
  let (name, rest) ← readWord s
  match rest with
  | c :: _ => if isRawIdentifierChar c then none else some (name, rest)
  | [] => some (name, rest)

end Ron

end ShadingGraph
