import ShadingGraph.Ron.StringLiteral

/-!
# Passing over literals

Values of unknown fields may be characters, bytes and byte strings, which no field of a document
holds. They are only passed over, and so are strings where the value in front of a place is not of
interest. An escape in a character stands for one character by itself, while the escapes of a byte
string give its bytes one by one or the encoding of a code point.

## Main definitions

- `Ron.skipCharacter`, `Ron.skipByte` — a literal between single quotes
- `Ron.skipString`, `Ron.skipByteString` — a literal between double quotes, or a raw one
- `Ron.passString`, `Ron.passByteString` — the same where such a literal may come next
-/

namespace ShadingGraph

namespace Ron

/-- The rest behind what was read. -/
def behind {α : Type} (r : Option (α × List Char)) : Option (List Char) := r.map Prod.snd

/-- The escape of a character that stands alone, after its backslash. A byte has to be a character
by itself. -/
def skipCharacterEscape : List Char → Option (List Char)
  | 'x' :: s => (readByteDigits s).bind fun p => if p.1 < 128 then some p.2 else none
  | s => behind (readEscape s)

/-- The escape of a byte that stands alone, after its backslash. A code point is no byte. -/
def skipByteEscape : List Char → Option (List Char)
  | 'x' :: s => behind (readByteDigits s)
  | 'u' :: _ => none
  | s => behind (readEscape s)

/-- The escape of bytes in a string, after its backslash. -/
def skipBytesEscape : List Char → Option (List Char)
  | 'x' :: s => behind (readByteDigits s)
  | s => behind (readEscape s)

/-- A character or a byte between single quotes, given the characters it may be and its escapes. -/
def skipSingleQuoted (may : Char → Bool) (escape : List Char → Option (List Char)) :
    List Char → Option (List Char)
  | '\'' :: '\\' :: s => (escape s).bind (expect '\'')
  | '\'' :: c :: s => if may c then expect '\'' s else none
  | _ => none

/-- A character literal. -/
def skipCharacter (s : List Char) : Option (List Char) :=
  skipSingleQuoted (fun _ => true) skipCharacterEscape s

/-- A byte literal. -/
def skipByte : List Char → Option (List Char)
  | 'b' :: s => skipSingleQuoted (fun c => decide (c.toNat < 128)) skipByteEscape s
  | _ => none

/-- What stands behind the closing quote, in at most as many steps as there are characters. -/
def skipQuoted (escape : List Char → Option (List Char)) : Nat → List Char → Option (List Char)
  | 0, _ => none
  | _ + 1, [] => none
  | steps + 1, c :: rest =>
    if c = '"' then some rest
    else if c = '\\' then (escape rest).bind (skipQuoted escape steps)
    else skipQuoted escape steps rest

/-- A string literal. -/
def skipString (s : List Char) : Option (List Char) := behind (readChars s)

/-- A byte string literal. -/
def skipByteString : List Char → Option (List Char)
  | 'b' :: '"' :: rest => skipQuoted skipBytesEscape (rest.length + 1) rest
  | 'b' :: 'r' :: rest => behind (readRaw rest)
  | _ => none

/-! ## Literals without an end -/

/-- Whether the closing quote is missing. That is so where no quote is left; an escape that is
malformed is met before. -/
def lacksQuote (escape : List Char → Option (List Char)) : Nat → List Char → Bool
  | 0, _ => true
  | steps + 1, s =>
    if '"' ∈ s then
      match s.dropWhile fun c => c ≠ '"' && c ≠ '\\' with
      | '\\' :: rest =>
        match escape rest with
        | some rest => lacksQuote escape steps rest
        | none => false
      | _ => false
    else true

/-- Whether a raw string, behind its first letter, begins but does not end. -/
def lacksRawEnd (s : List Char) : Bool :=
  match s.dropWhile (· = '#') with
  | '"' :: _ => (readRaw s).isNone
  | _ => false

/-- Whether a string literal begins here but does not end. -/
def isOpenString : List Char → Bool
  | '"' :: rest => lacksQuote (fun s => behind (readEscape s)) (rest.length + 1) rest
  | 'r' :: rest => lacksRawEnd rest
  | _ => false

/-- Whether a byte string literal begins here but does not end. -/
def isOpenByteString : List Char → Bool
  | 'b' :: '"' :: rest => lacksQuote skipBytesEscape (rest.length + 1) rest
  | 'b' :: 'r' :: rest => lacksRawEnd rest
  | _ => false

/-- Passes over a string literal if one comes next. One without an end is malformed. -/
def passString (s : List Char) : Option (List Char) :=
  (skipString s).or (if isOpenString s then none else some s)

/-- Passes over a byte string literal if one comes next. One without an end is malformed. -/
def passByteString (s : List Char) : Option (List Char) :=
  (skipByteString s).or (if isOpenByteString s then none else some s)

end Ron

end ShadingGraph
