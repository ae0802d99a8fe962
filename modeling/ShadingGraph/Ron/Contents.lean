import ShadingGraph.Ron.Literal

/-!
# What parentheses hold

Parentheses hold named fields, items, or nothing. Which it is shows in what comes first in them:
named fields begin with an identifier and a colon. The payload of an optional value may leave its
own parentheses out; whether it did shows in a comma with another item behind it, which is looked
for up to the closing mark.

## Main definitions

- `Ron.Contents` — named fields, one item, several items, or nothing
- `Ron.hasNamedFields` — named fields apart from all else
- `Ron.contents` — all four apart
-/

namespace ShadingGraph

namespace Ron

/-- What stands between parentheses. -/
inductive Contents where
  | nothing
  | named
  | single
  | several
deriving DecidableEq

/-- Whether the parentheses that come next hold named fields: the first thing in them is then an
identifier with a colon behind it. -/
def hasNamedFields (s : List Char) : Option Bool := do
  let s ← expect '(' s
  let s ← skipGap s
  match readWord s with
  | none => some false
  | some (_, s) => do
    let s ← skipGap s
    some (s.head? == some ':')

/-- One item or several, from what stands behind the first comma. -/
def contentsBehindComma (s : List Char) : Option Contents := do
  let s ← skipGap s
  some (if s.head? == some ')' then .single else .several)

/-- One item or several: looks for a comma inside as many further marks as the second number says,
up to the mark that closes the parentheses. Marks in comments and literals do not count. The first
number bounds the steps. -/
def countItems : Nat → Nat → List Char → Option Contents
  | 0, _, _ => none
  | steps + 1, depth, s => do
    let s ← skipGap s
    let s ← passString ((skipCharacter s).getD s)
    let s ← passByteString s
    match s with
    | [] => none
    | c :: rest =>
      if c = '(' || c = '[' || c = '{' then countItems steps (depth + 1) rest
      else if c = ')' || c = ']' || c = '}' then
        if depth = 0 then some .single else countItems steps (depth - 1) rest
      else if c = ',' && depth = 0 then contentsBehindComma rest
      else countItems steps depth rest

/-- What stands between parentheses, from what is behind the opening one. -/
def contents (s : List Char) : Option Contents := do
  let s ← skipGap s
  if s.head? == some ')' then some .nothing
  else
    match readWord s with
    | none => countItems (s.length + 1) 0 s
    | some (_, s) => do
      let s ← skipGap s
      match s with
      | ':' :: _ => some .named
      | ',' :: rest => contentsBehindComma rest
      | ')' :: _ => some .single
      | s => countItems (s.length + 1) 0 s

end Ron

end ShadingGraph
