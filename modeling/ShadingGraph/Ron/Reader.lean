import ShadingGraph.OrderedMap
import ShadingGraph.Ron.NumberLiteral

/-!
# Readers of RON constructs

The constructs of a document: lists, tuples, maps, structs with named fields, variants of an
enumeration and optional values. What is read is known beforehand, so a reader is built from the
readers of its parts. Nesting is limited: each container uses up one level for itself and one for
each of its items.

## Main definitions

- `Ron.Extensions`, `Ron.Scope` — what a document may abbreviate, and the levels that are left
- `Ron.Reader` — a reader of a value in a scope
- `Ron.readList`, `Ron.readTuple`, `Ron.readMap`, `Ron.readStruct`, `Ron.readOption`
- `Ron.readVariant` — the name of a variant and its payload
-/

namespace ShadingGraph

namespace Ron

/-- The abbreviations that a document can ask for. -/
structure Extensions where
  /-- An optional value may stand for itself. -/
  implicitSome : Bool
  /-- The only field of a struct without names may stand for the struct. -/
  unwrapNewtypes : Bool
  /-- A tuple or struct that is the payload of a variant has no parentheses of its own. -/
  unwrapVariantNewtypes : Bool
  /-- The name of a struct must be written. -/
  explicitStructNames : Bool
deriving DecidableEq

/-- No abbreviation. -/
def Extensions.empty : Extensions := ⟨false, false, false, false⟩

/-- What holds at a place of a document. -/
structure Scope where
  extensions : Extensions
  /-- The levels of nesting that are left. -/
  levels : Nat
deriving DecidableEq

/-- The scope one level further in. -/
def Scope.enter (x : Scope) : Option Scope :=
  match x.levels with
  | 0 => none
  | n + 1 => some { x with levels := n }

/-- A reader of a value in a scope: the value and the rest of the document, or nothing. -/
abbrev Reader (α : Type) := Scope → List Char → Option (α × List Char)

/-- Reads in the scope one level further in. -/
def nested {α : Type} (read : Reader α) : Reader α := fun x s => do
  let x ← x.enter
  read x s

/-- A reader that does not depend on the scope. -/
def anywhere {α : Type} (read : List Char → Option (α × List Char)) : Reader α := fun _ s => read s

/-- Reads a value and turns it into another one. -/
def mapReader {α β : Type} (f : α → β) (read : Reader α) : Reader β := fun x s =>
  (read x s).map fun p => (f p.1, p.2)

/-- Items with commas between them, and optionally one behind the last, up to a closing mark, which
is left. At most as many items are read as the first number says; the flag says whether an item may
come next. -/
def readItems {α : Type} (close : Char) (item : List Char → Option (α × List Char)) :
    Nat → Bool → List Char → Option (List α × List Char)
  | 0, _, _ => none
  | steps + 1, mayFollow, s => do
    let s ← skipGap s
    if s.head? == some close then some ([], s)
    else if mayFollow then do
      let (a, s) ← item s
      let (comma, s) ← readComma s
      let (as, s) ← readItems close item steps comma s
      some (a :: as, s)
    else none

/-- All items up to a closing mark, each one level further in. -/
def readItemsUntil {α : Type} (close : Char) (item : Reader α) : Reader (List α) := fun x s =>
  readItems close (nested item x) (s.length + 1) true s

/-- A container between two marks, which uses up one level. -/
def readEnclosed {α : Type} (first last : Char) (item : Reader α) : Reader (List α) := fun x s => do
  let s ← expect first s
  let x ← x.enter
  let (as, s) ← readItemsUntil last item x s
  let s ← expect last s
  some (as, s)

/-- A list of values of one type. -/
def readList {α : Type} (item : Reader α) : Reader (List α) := readEnclosed '[' ']' item

/-- A number of items with commas between them, and optionally one behind the last; the flag says
whether an item may come next. -/
def readCount {α : Type} (close : Char) (item : List Char → Option (α × List Char)) :
    Nat → Bool → List Char → Option (List α × List Char)
  | 0, _, s => (skipGap s).map ([], ·)
  | count + 1, mayFollow, s => do
    let s ← skipGap s
    if s.head? == some close || !mayFollow then none
    else do
      let (a, s) ← item s
      let (comma, s) ← readComma s
      let (as, s) ← readCount close item count comma s
      some (a :: as, s)

/-- The items of a tuple, which uses up one level, and each item one more. As the payload of a
variant that is unwrapped, a tuple has no parentheses of its own. -/
def readTuple {α : Type} (count : Nat) (bare : Bool) (item : Reader α) : Reader (List α) :=
  fun x s => do
    let s ← if bare then some s else expect '(' s
    let x ← x.enter
    let (as, s) ← readCount ')' (nested item x) count true s
    let s ← if bare then some s else expect ')' s
    some (as, s)

/-- The colon behind a key, with the gaps around it, and the value. -/
def readColonValue {α : Type} (value : Reader α) : Reader α := fun x s => do
  let s ← skipGap s
  let s ← expect ':' s
  let s ← skipGap s
  value x s

/-- An entry of a map. -/
def readEntry {α β : Type} (key : Reader α) (value : Reader β) : Reader (α × β) := fun x s => do
  let (k, s) ← key x s
  let (v, s) ← readColonValue value x s
  some ((k, v), s)

/-- A map; an entry with a key that came before replaces the value there. -/
def readMap {α β : Type} [DecidableEq α] (key : Reader α) (value : Reader β) :
    Reader (OrderedMap α β) :=
  mapReader OrderedMap.ofList (readEnclosed '{' '}' (readEntry key value))

/-- What a field does to the fields read before it; nothing comes of a field that was read
before. -/
abbrev FieldUpdate (σ : Type) := σ → Option σ

/-- A field of a struct: its name, and the reader of what it does. -/
abbrev Field (σ : Type) := String × Reader (FieldUpdate σ)

/-- A field that is kept in an optional part of a record, and may come once. -/
def field {σ α : Type} (name : String) (read : Reader α) (get : σ → Option α)
    (set : σ → α → σ) : Field σ :=
  (name, mapReader (fun a st => if (get st).isSome then none else some (set st a)) read)

/-- The name of a struct, which may be missing unless the document says otherwise. -/
def skipStructName (name : String) (x : Scope) (s : List Char) : Option (List Char) :=
  if continuesIdentifier s then do
    let (found, rest) ← readIdentifier s
    if String.ofList found = name then some rest else none
  else if x.extensions.explicitStructNames then none
  else some s

/-- A field of a struct by its name; the value of an unknown field is skipped. -/
def readField {σ : Type} (fields : List (Field σ)) (unknown : Reader Unit) :
    Reader (FieldUpdate σ) := fun x s => do
  let (name, s) ← readIdentifier s
  match fields.find? fun f => f.1 == String.ofList name with
  | some f => readColonValue f.2 x s
  | none => readColonValue (mapReader (fun _ st => some st) unknown) x s

/-- The fields of a struct in order, starting from a record without any. -/
def applyUpdates {σ : Type} (start : σ) (updates : List (FieldUpdate σ)) : Option σ :=
  updates.foldlM (fun st u => u st) start

/-- A struct with named fields, built from the record of the fields that were read. As the payload
of a variant that is unwrapped, it has neither a name nor parentheses of its own. -/
def readStruct {σ α : Type} (bare : Bool) (name : String) (fields : List (Field σ))
    (unknown : Reader Unit) (start : σ) (build : σ → Option α) : Reader α := fun x s => do
  let s ← if bare then some s else skipStructName name x s
  let s ← skipGap s
  let (updates, s) ←
    if bare then nested (readItemsUntil ')' (readField fields unknown)) x s
    else readEnclosed '(' ')' (readField fields unknown) x s
  let st ← applyUpdates start updates
  let a ← build st
  some (a, s)

/-- The payload of a variant or of an optional value, behind the opening parenthesis. -/
def readPayload {α : Type} (read : Reader α) : Reader α := fun x s => do
  let s ← skipGap s
  let (a, s) ← nested read x s
  let (_, s) ← readComma s
  let s ← expect ')' s
  some (a, s)

/-- An optional value. The reader of its payload is told whether the payload may leave its own
parentheses out. -/
def readOption {α : Type} (read : Bool → Reader α) : Reader (Option α) := fun x s =>
  match skipWord ['N', 'o', 'n', 'e'] s with
  | some rest => some (none, rest)
  | none =>
    let implicit (s : List Char) : Option (Option α × List Char) :=
      if x.extensions.implicitSome then mapReader some (nested (read false)) x s else none
    match skipWord ['S', 'o', 'm', 'e'] s with
    | some rest => do
      let rest ← skipGap rest
      match rest with
      | '(' :: inside =>
        mapReader some (readPayload (read x.extensions.unwrapVariantNewtypes)) x inside
      | _ => implicit rest
    | none => implicit s

/-- A variant with one payload: its name, and the payload as the name demands. -/
def readVariant {α : Type} (payload : String → Option (Bool → Reader α)) : Reader α :=
  nested fun x s => do
    let (name, s) ← nested (anywhere readIdentifier) x s
    let read ← payload (String.ofList name)
    let s ← skipGap s
    let s ← expect '(' s
    readPayload (read x.extensions.unwrapVariantNewtypes) x s

/-- A truth value. -/
def readBool (s : List Char) : Option (Bool × List Char) :=
  ((skipWord ['t', 'r', 'u', 'e'] s).map (true, ·)).or
    ((skipWord ['f', 'a', 'l', 's', 'e'] s).map (false, ·))

end Ron

end ShadingGraph
