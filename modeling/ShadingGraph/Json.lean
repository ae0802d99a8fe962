import ShadingGraph.Number.Notation
import ShadingGraph.Text.Quoted

/-!
# JSON texts

Writers of JSON texts for reading by people: one item of an array or object on a line, indented by
two spaces for each container around it, and empty containers as their two marks.

## Main definitions

- `Json.Writer` — a text, given how many containers stand around it
- `Json.string`, `Json.natural`, `Json.integer`, `Json.single`, `Json.array`, `Json.object`
-/

namespace ShadingGraph

namespace Json

/-- A text, given how many containers stand around it. -/
abbrev Writer := Nat → List Char

/-- The beginning of a line at a depth of indentation. -/
def newLine (depth : Nat) : List Char := '\n' :: List.replicate (2 * depth) ' '

/-- A string. -/
def string (s : String) : Writer := fun _ => quote escapeForReport s

/-- A natural number. -/
def natural (n : Nat) : Writer := fun _ => digitsOf n

/-- An integer. -/
def integer (n : Int) : Writer := fun _ => integerText n

/-- A number in single precision; what is not finite has no number and is null. -/
def single (x : Single) : Writer := fun _ =>
  if x.isNaN || x.isInfinite then ['n', 'u', 'l', 'l'] else x.write .report

/-- Items on lines of their own, with commas between them. -/
def lines (depth : Nat) : List Writer → List Char
  | [] => []
  | [item] => newLine depth ++ item depth
  | item :: items => newLine depth ++ item depth ++ ',' :: lines depth items

/-- Items between two marks. -/
def enclosed (first last : Char) (items : List Writer) : Writer := fun depth =>
  if items.isEmpty then [first, last]
  else first :: (lines (depth + 1) items ++ newLine depth ++ [last])

/-- An array. -/
def array (items : List Writer) : Writer := enclosed '[' ']' items

/-- A member of an object. -/
def member (name : String) (value : Writer) : Writer := fun depth =>
  quote escapeForReport name ++ ':' :: ' ' :: value depth

/-- An object with its members in order. -/
def object (members : List (String × Writer)) : Writer :=
  enclosed '\x7b' '\x7d' (members.map fun m => member m.1 m.2)

/-- The text of a value that stands in no container. -/
def text (w : Writer) : String := String.ofList (w 0)

end Json

end ShadingGraph
