import ShadingGraph.Ron.Token

/-!
# String literals of RON documents

Strings stand between double quotes with escapes, or raw between quotes and hash marks. An escape
may give a byte by its number; the bytes of a character beyond ASCII are escaped one after the
other.

## Main definitions

- `Ron.readEscape` — the character that an escape stands for
- `Ron.readString` — a string literal of either form
-/

namespace ShadingGraph

namespace Ron

/-- The value of a hexadecimal digit of either case. -/
def hexValue? (c : Char) : Option Nat :=
  if c.isDigit then some (c.toNat - 48)
  else if 97 ≤ c.toNat ∧ c.toNat ≤ 102 then some (c.toNat - 87)
  else if 65 ≤ c.toNat ∧ c.toNat ≤ 70 then some (c.toNat - 55)
  else none

/-- The number that hexadecimal digits denote. -/
def hexNumber (ds : List Char) : Nat := ds.foldl (fun n c => 16 * n + (hexValue? c).getD 0) 0

/-- The character of a number, if it is a code point and no surrogate. -/
def charOfNumber? (n : Nat) : Option Char :=
  if h : n.isValidChar then some (Char.ofNatAux n h) else none

/-- The two digits of an escaped byte. -/
def readByteDigits : List Char → Option (Nat × List Char)
  | c :: d :: rest => do
    let high ← hexValue? c
    let low ← hexValue? d
    some (16 * high + low, rest)
  | _ => none

/-- An escaped byte that continues a character: its lower six bits. -/
def readContinuation : List Char → Option (Nat × List Char)
  | '\\' :: 'x' :: s => do
    let (byte, rest) ← readByteDigits s
    if 128 ≤ byte ∧ byte < 192 then some (byte - 128, rest) else none
  | _ => none

/-- As many continuations as a number says, in front of which a leading part stands. -/
def readContinuations : Nat → Nat → List Char → Option (Nat × List Char)
  | 0, n, s => some (n, s)
  | count + 1, n, s => do
    let (bits, rest) ← readContinuation s
    readContinuations count (64 * n + bits) rest

/-- The character whose first byte has been read. The encoding of a character is the shortest one,
so that with each further byte there is a least number that it may encode. -/
def readEncoded (byte : Nat) (s : List Char) : Option (Char × List Char) :=
  if byte < 128 then (charOfNumber? byte).map (·, s)
  else
    let shape : Option (Nat × Nat × Nat) :=
      if 192 ≤ byte ∧ byte < 224 then some (1, byte - 192, 128)
      else if 224 ≤ byte ∧ byte < 240 then some (2, byte - 224, 2048)
      else if 240 ≤ byte ∧ byte < 248 then some (3, byte - 240, 65536)
      else none
    do
      let (count, leading, least) ← shape
      let (n, rest) ← readContinuations count leading s
      if n < least then none else (charOfNumber? n).map (·, rest)

/-- The character of a code point between braces, of one to six digits. -/
def readCodePoint (s : List Char) : Option (Char × List Char) :=
  let ds := s.takeWhile fun c => (hexValue? c).isSome
  if ds.isEmpty || 6 < ds.length then none
  else do
    let rest ← expect '}' (s.dropWhile fun c => (hexValue? c).isSome)
    let c ← charOfNumber? (hexNumber ds)
    some (c, rest)

/-- The character that an escape stands for, after its backslash. -/
def readEscape : List Char → Option (Char × List Char)
  | '\'' :: rest => some ('\'', rest)
  | '"' :: rest => some ('"', rest)
  | '\\' :: rest => some ('\\', rest)
  | 'n' :: rest => some ('\n', rest)
  | 'r' :: rest => some ('\r', rest)
  | 't' :: rest => some ('\t', rest)
  | '0' :: rest => some ('\x00', rest)
  | 'x' :: s => do
    let (byte, rest) ← readByteDigits s
    readEncoded byte rest
  | 'u' :: '{' :: rest => readCodePoint rest
  | _ => none

/-- The characters up to the closing quote, in at most as many steps as there are characters. -/
def readQuoted : Nat → List Char → Option (List Char × List Char)
  | 0, _ => none
  | _ + 1, [] => none
  | steps + 1, c :: rest =>
    if c = '"' then some ([], rest)
    else if c = '\\' then do
      let (e, rest) ← readEscape rest
      let (cs, rest) ← readQuoted steps rest
      some (e :: cs, rest)
    else do
      let (cs, rest) ← readQuoted steps rest
      some (c :: cs, rest)

/-- What stands before and behind the first place where a mark begins. -/
def splitAtMark (mark : List Char) : List Char → Option (List Char × List Char)
  | [] => none
  | c :: rest =>
    match dropExact? mark (c :: rest) with
    | some behind => some ([], behind)
    | none => (splitAtMark mark rest).map fun p => (c :: p.1, p.2)

/-- A raw string, behind its first letter: it ends at a quote with as many hash marks as it began
with. -/
def readRaw (s : List Char) : Option (List Char × List Char) := do
  let hashes := s.takeWhile (· = '#')
  let rest ← expect '"' (s.dropWhile (· = '#'))
  splitAtMark ('"' :: hashes) rest

/-- A string literal, as its characters. -/
def readChars : List Char → Option (List Char × List Char)
  | '"' :: rest => readQuoted (rest.length + 1) rest
  | 'r' :: rest => readRaw rest
  | _ => none

/-- A string literal. -/
def readString (s : List Char) : Option (String × List Char) :=
  (readChars s).map fun p => (String.ofList p.1, p.2)

end Ron

end ShadingGraph
