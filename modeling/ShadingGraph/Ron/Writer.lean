import ShadingGraph.Number.Notation
import ShadingGraph.OrderedMap
import ShadingGraph.Text.Quoted

/-!
# Writers of RON constructs

Documents are laid out with one item of a list, map or struct on a line, indented by four spaces for
each container around it, and with a comma behind every item. Tuples stay on one line, and empty
containers are written as their two marks.

## Main definitions

- `Ron.Writer` — a writer of a value at a depth of indentation
- `Ron.writeList`, `Ron.writeTuple`, `Ron.writeMap`, `Ron.writeStruct`, `Ron.writeOption`,
  `Ron.writeVariant` — the constructs
-/

namespace ShadingGraph

namespace Ron

/-- A writer of a value, given how many containers stand around it. -/
abbrev Writer (α : Type) := Nat → α → List Char

/-- The beginning of a line at a depth of indentation. -/
def newLine (depth : Nat) : List Char := '\n' :: List.replicate (4 * depth) ' '

/-- An item on a line of its own, with a comma behind it. -/
def writeItem {α : Type} (item : Writer α) (depth : Nat) (a : α) : List Char :=
  newLine (depth + 1) ++ item (depth + 1) a ++ [',']

/-- Items between two marks, one on a line. -/
def writeEnclosed {α : Type} (first last : Char) (item : Writer α) : Writer (List α) :=
  fun depth as =>
    match as with
    | [] => [first, last]
    | as => first :: (as.flatMap (writeItem item depth) ++ newLine depth ++ [last])

/-- A string literal. -/
def writeString : Writer String := fun _ s => quote escapeForDocument s

/-- An integer literal. -/
def writeInteger : Writer Int := fun _ n => integerText n

/-- A literal of a number of a binary format. -/
def writeFloat {f : BinaryFormat} : Writer (Binary f) := fun _ x => x.write .document

/-- A truth value. -/
def writeBool : Writer Bool := fun _ b =>
  if b then ['t', 'r', 'u', 'e'] else ['f', 'a', 'l', 's', 'e']

/-- A list. -/
def writeList {α : Type} (item : Writer α) : Writer (List α) := writeEnclosed '[' ']' item

/-- Items with a comma and a space between them. -/
def writeInline {α : Type} (item : Writer α) (depth : Nat) : List α → List Char
  | [] => []
  | [a] => item depth a
  | a :: as => item depth a ++ ',' :: ' ' :: writeInline item depth as

/-- A tuple of items of one type, on one line. -/
def writeTuple {α : Type} (item : Writer α) : Writer (List α) := fun depth as =>
  '(' :: (writeInline item depth as ++ [')'])

/-- A key and its value. -/
def writeEntry {α β : Type} (key : Writer α) (value : Writer β) : Writer (α × β) := fun depth e =>
  key depth e.1 ++ ':' :: ' ' :: value depth e.2

/-- A map. -/
def writeMap {α β : Type} (key : Writer α) (value : Writer β) : Writer (OrderedMap α β) :=
  fun depth m => writeEnclosed '{' '}' (writeEntry key value) depth m.entries

/-- A struct with its name and its fields, each given with the writer of its value. -/
def writeStruct (name : String) (depth : Nat) (fields : List (String × (Nat → List Char))) :
    List Char :=
  name.toList ++
    writeEnclosed '(' ')' (fun depth f => f.1.toList ++ ':' :: ' ' :: f.2 depth) depth fields

/-- A variant with its payload, which stands at the same depth. -/
def writeVariant (name : String) (payload : List Char) : List Char :=
  name.toList ++ '(' :: (payload ++ [')'])

/-- An optional value. -/
def writeOption {α : Type} (value : Writer α) : Writer (Option α) := fun depth a =>
  match a with
  | none => ['N', 'o', 'n', 'e']
  | some a => writeVariant "Some" (value depth a)

end Ron

end ShadingGraph
