import ShadingGraph.Ron.Skip

/-!
# RON documents

A document is one value, with gaps around it and attributes in front of it that ask for
abbreviations.

## Main definitions

- `Ron.readAttributes` — the abbreviations that a document asks for
- `Ron.parse` — the value of a document
-/

namespace ShadingGraph

namespace Ron

/-- How deep a document may be nested. -/
def levelLimit : Nat := 128

/-- Adds an abbreviation by its name. -/
def Extensions.add (x : Extensions) (name : String) : Option Extensions :=
  match name with
  | "implicit_some" => some { x with implicitSome := true }
  | "unwrap_newtypes" => some { x with unwrapNewtypes := true }
  | "unwrap_variant_newtypes" => some { x with unwrapVariantNewtypes := true }
  | "explicit_struct_names" => some { x with explicitStructNames := true }
  | _ => none

/-- Takes fixed marks away, each with the gap behind it. -/
def expectAll : List (List Char) → List Char → Option (List Char)
  | [], s => some s
  | mark :: marks, s => do
    let s ← dropExact? mark s
    let s ← skipGap s
    expectAll marks s

/-- The names of one attribute, up to its closing parenthesis. -/
def readExtensionNames : Nat → Extensions → List Char → Option (Extensions × List Char)
  | 0, _, _ => none
  | steps + 1, x, s => do
    let (name, s) ← readIdentifier s
    let x ← x.add (String.ofList name)
    let (comma, s) ← readComma s
    match s with
    | c :: _ =>
      if comma && isIdentifierStart c then readExtensionNames steps x s else some (x, s)
    | [] => some (x, s)

/-- The attributes in front of a value, at most as many as the number says. -/
def readAttributes : Nat → Extensions → List Char → Option (Extensions × List Char)
  | 0, _, _ => none
  | steps + 1, x, s =>
    match s with
    | '#' :: _ => do
      let s ← expectAll [['#'], ['!'], ['['], ['e', 'n', 'a', 'b', 'l', 'e'], ['(']] s
      let (x, s) ← readExtensionNames (s.length + 1) x s
      let s ← expectAll [[')'], [']']] s
      readAttributes steps x s
    | _ => some (x, s)

/-- The value of a document, read to its end. -/
def parse {α : Type} (read : Reader α) (text : String) : Option α := do
  let s ← skipGap text.toList
  let (extensions, s) ← readAttributes (s.length + 1) .empty s
  let (a, s) ← read ⟨extensions, levelLimit⟩ s
  let s ← skipGap s
  if s.isEmpty then some a else none

end Ron

end ShadingGraph
