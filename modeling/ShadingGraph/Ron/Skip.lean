import ShadingGraph.Ron.Contents
import ShadingGraph.Ron.Reader

/-!
# Skipping values of unknown fields

The value of an unknown field may be anything that a document can hold. It is read without knowing
its type, only to find where it ends.

## Main definitions

- `Ron.skipLiteral` — literals
- `Ron.skipValue` — any value, within the levels of nesting that are left
-/

namespace ShadingGraph

namespace Ron

/-- Forgets what was read. -/
def forget {α : Type} (r : Option (α × List Char)) : Option (Unit × List Char) :=
  r.map fun p => ((), p.2)

/-- An integer of any type that a suffix names, or without one of any type of 64 bits. -/
def skipInteger (s : List Char) : Option (List Char) :=
  let (negative, unsigned) := splitSign s
  match readSuffix (unsigned.dropWhile isIntegerChar) with
  | some (type, rest) => (readMagnitude type negative unsigned).map fun _ => rest
  | none => behind (readMagnitude (if negative then .signed 64 else .unsigned 64) negative unsigned)

/-- A floating-point number of either precision. -/
def skipFloat (s : List Char) : Option (List Char) :=
  (behind (readFloat .double s)).or (behind (readFloat .single s))

/-- A number: a floating-point number if more of it can be read as one, otherwise an integer, or a
floating-point number where the integer is out of range. -/
def skipNumber (s : List Char) : Option (List Char) :=
  let unsigned := (splitSign s).2
  if (unsigned.takeWhile isIntegerChar).length < (unsigned.takeWhile isFloatChar).length then
    skipFloat s
  else (skipInteger s).or (skipFloat s)

/-- A literal that begins with a mark or a digit. -/
def skipLiteral : List Char → Option (List Char)
  | [] => none
  | 'b' :: '\'' :: rest => skipByte ('b' :: '\'' :: rest)
  | c :: rest =>
    if c.isDigit || c = '+' || c = '-' || c = '.' then skipNumber (c :: rest)
    else if c = '"' || c = 'r' then skipString (c :: rest)
    else if c = 'b' then skipByteString (c :: rest)
    else skipCharacter (c :: rest)

/-- The words that stand for a value of their own. -/
def valueWords : List (List Char) :=
  [ ['t', 'r', 'u', 'e'], ['f', 'a', 'l', 's', 'e'], ['N', 'o', 'n', 'e'], ['i', 'n', 'f'],
    ['i', 'n', 'f', 'f', '3', '2'], ['i', 'n', 'f', 'f', '6', '4'], ['N', 'a', 'N'],
    ['N', 'a', 'N', 'f', '3', '2'], ['N', 'a', 'N', 'f', '6', '4'] ]

/-- A word that stands for a value, if one comes next. -/
def skipValueWord (s : List Char) : Option (List Char) :=
  valueWords.findSome? fun word => skipWord word s

/-- Parentheses with named fields or with items. -/
def skipParentheses (value : Reader Unit) : Reader Unit := fun x s => do
  if ← hasNamedFields s then
    forget (readEnclosed '(' ')' (readEntry (anywhere readIdentifier) value) x s)
  else forget (readEnclosed '(' ')' value x s)

/-- A value with parentheses of its own, if it has any, given how the values inside it are
skipped. -/
def skipWhole (value : Bool → Reader Unit) : Reader Unit := fun x s =>
  match skipWord ['S', 'o', 'm', 'e'] s with
  | some _ => forget (readOption value x s)
  | none =>
    match (skipValueWord s).or (dropExact? ['(', ')'] s) with
    | some rest => some ((), rest)
    | none =>
      match readWord s with
      | some (_, rest) => do
        let rest ← skipGap rest
        if rest.head? == some '(' then skipParentheses (value false) x rest else some ((), rest)
      | none =>
        match s with
        | '(' :: _ => skipParentheses (value false) x s
        | '[' :: _ => forget (readEnclosed '[' ']' (value false) x s)
        | '{' :: _ => forget (readEnclosed '{' '}' (readEntry (value false) (value false)) x s)
        | _ => (skipLiteral s).map ((), ·)

/-- The payload of an optional value that may leave its own parentheses out: it did where named
fields, several items or nothing comes next. -/
def skipBare (value : Bool → Reader Unit) : Reader Unit := fun x s => do
  match ← contents s with
  | .nothing => some ((), s)
  | .named =>
    forget (nested (readItemsUntil ')' (readEntry (anywhere readIdentifier) (value false))) x s)
  | .several => forget (nested (readItemsUntil ')' (value false)) x s)
  | .single => skipWhole value x s

/-- Skips any value. The number bounds how deep values stand inside each other; the flag says
whether the value may leave its own parentheses out. -/
def skipDeep : Nat → Bool → Reader Unit
  | 0, _ => fun _ _ => none
  | depth + 1, bare => if bare then skipBare (skipDeep depth) else skipWhole (skipDeep depth)

/-- Skips any value: no value inside it can stand deeper than the levels that are left. -/
def skipValue : Reader Unit := fun x s => skipDeep (x.levels + 1) false x s

end Ron

end ShadingGraph
