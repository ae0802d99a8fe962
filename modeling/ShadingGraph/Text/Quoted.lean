import ShadingGraph.Text.Printable

/-!
# Quoted texts

Three ways of writing a text between quotes. Inspection texts escape what is not shown as it is;
documents escape the single quote as well; reports escape only quotes, backslashes and control
characters below the space.

## Main definitions

- `escapeForInspection`, `escapeForDocument`, `escapeForReport` — one character
- `quote` — a text between double quotes, character by character
-/

namespace ShadingGraph

/-- The escape of a character by its number, in lower-case hexadecimal. -/
def numericEscape (c : Char) : List Char :=
  ['\\', 'u', '{'] ++ Nat.toDigits 16 c.toNat ++ ['}']

/-- The escapes that inspection texts and documents have in common: the backslash, the double quote,
the named control characters, and by number whatever is not shown as it is. -/
def escapeForInspection (c : Char) : List Char :=
  match c with
  | '\x00' => ['\\', '0']
  | '\t' => ['\\', 't']
  | '\r' => ['\\', 'r']
  | '\n' => ['\\', 'n']
  | '\\' => ['\\', '\\']
  | '"' => ['\\', '"']
  | c => if isShown c then [c] else numericEscape c

/-- Documents escape the single quote too. -/
def escapeForDocument (c : Char) : List Char :=
  if c = '\'' then ['\\', '\''] else escapeForInspection c

/-- Reports name the control characters that have a letter and number the others with four
digits. -/
def escapeForReport (c : Char) : List Char :=
  match c with
  | '"' => ['\\', '"']
  | '\\' => ['\\', '\\']
  | '\x08' => ['\\', 'b']
  | '\x0c' => ['\\', 'f']
  | '\n' => ['\\', 'n']
  | '\r' => ['\\', 'r']
  | '\t' => ['\\', 't']
  | c =>
    if c.toNat < 32 then
      ['\\', 'u', '0', '0', Nat.digitChar (c.toNat / 16), Nat.digitChar (c.toNat % 16)]
    else [c]

/-- A text between double quotes, each character escaped. -/
def quote (escape : Char → List Char) (s : String) : List Char :=
  '"' :: (s.toList.flatMap escape ++ ['"'])

/-- A text as inspection texts write it. -/
def inspectString (s : String) : List Char := quote escapeForInspection s

end ShadingGraph
