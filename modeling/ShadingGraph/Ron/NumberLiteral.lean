import ShadingGraph.Number.Decimal
import ShadingGraph.Ron.StringLiteral

/-!
# Number literals of RON documents

Integers may be binary, octal, decimal or hexadecimal, floating-point numbers are decimal or one of
the words for infinity and NaN. Underscores may separate digits, and a suffix may name the type,
which then has to be the type that is read.

## Main definitions

- `Ron.IntegerType`, `Ron.readInteger` — integers of a type, within its range
- `Ron.FloatType`, `Ron.readFloat` — numbers of a binary format
- `Decimal.ofLiteral?` — the decimal number that a literal denotes
-/

namespace ShadingGraph

/-- The sign at the beginning of a literal, and what stands behind it. -/
def splitSign : List Char → Bool × List Char
  | '+' :: rest => (false, rest)
  | '-' :: rest => (true, rest)
  | s => (false, s)

/-- The power of ten of a literal, behind its mark. -/
def exponentOfLiteral? (s : List Char) : Option Int :=
  let (negative, ds) := splitSign s
  if ds.isEmpty || !ds.all Char.isDigit then none
  else
    let n := Nat.ofDigitChars 10 ds 0
    some (if negative then -(n : Int) else n)

/-- The number that a literal denotes, with its sign apart: digits with at most one point among,
before or behind them, and an optional power of ten. -/
def Decimal.ofLiteral? (s : List Char) : Option (Bool × Decimal) :=
  let (negative, s) := splitSign s
  let whole := s.takeWhile Char.isDigit
  let s := s.dropWhile Char.isDigit
  let (fraction, s) :=
    match s with
    | '.' :: rest => (rest.takeWhile Char.isDigit, rest.dropWhile Char.isDigit)
    | s => ([], s)
  if whole.isEmpty && fraction.isEmpty then none
  else do
    let e ← match s with
      | [] => some 0
      | c :: rest => if c = 'e' ∨ c = 'E' then exponentOfLiteral? rest else none
    some (negative, ⟨Nat.ofDigitChars 10 (whole ++ fraction) 0, e - fraction.length⟩)

namespace Ron

/-- A type of integers: the suffix that names it and its range. -/
structure IntegerType where
  suffix : List Char
  least : Int
  greatest : Int
deriving DecidableEq

namespace IntegerType

/-- The signed type of a number of bits. -/
def signed (bits : Nat) : IntegerType :=
  ⟨'i' :: Nat.toDigits 10 bits, -(Nat.pow 2 (bits - 1) : Int), (Nat.pow 2 (bits - 1) : Int) - 1⟩

/-- The unsigned type of a number of bits. -/
def unsigned (bits : Nat) : IntegerType :=
  ⟨'u' :: Nat.toDigits 10 bits, 0, (Nat.pow 2 bits : Int) - 1⟩

/-- All types that a suffix can name. -/
def all : List IntegerType := [8, 16, 32, 64].flatMap fun bits => [signed bits, unsigned bits]

end IntegerType

/-- A character of an integer literal, whatever its base. -/
def isIntegerChar (c : Char) : Bool := (hexValue? c).isSome || c = '_'

/-- The base of an integer literal, and what stands behind its mark. -/
def splitBase : List Char → Nat × List Char
  | '0' :: 'b' :: rest => (2, rest)
  | '0' :: 'o' :: rest => (8, rest)
  | '0' :: 'x' :: rest => (16, rest)
  | s => (10, s)

/-- The number that digits of a base denote; underscores between them are skipped. -/
def numberOfDigits? (base : Nat) : List Char → Nat → Option Nat
  | [], n => some n
  | c :: rest, n =>
    if c = '_' then numberOfDigits? base rest n
    else
      match hexValue? c with
      | some d => if d < base then numberOfDigits? base rest (base * n + d) else none
      | none => none

/-- The digits of an integer behind its sign, read as a number of a type. -/
def readMagnitude (type : IntegerType) (negative : Bool) (s : List Char) :
    Option (Int × List Char) :=
  let (base, s) := splitBase s
  let ds := s.takeWhile isIntegerChar
  if ds.isEmpty || ds.head? == some '_' then none
  else do
    let n ← numberOfDigits? base ds 0
    let value : Int := if negative then -(n : Int) else n
    if type.least ≤ value ∧ value ≤ type.greatest then some (value, s.dropWhile isIntegerChar)
    else none

/-- The type that a suffix names, and what stands behind the suffix. -/
def readSuffix (s : List Char) : Option (IntegerType × List Char) :=
  IntegerType.all.findSome? fun type => (skipWord type.suffix s).map (type, ·)

/-- An integer of a type. A suffix has to name the type. -/
def readInteger (type : IntegerType) (s : List Char) : Option (Int × List Char) :=
  let (negative, s) := splitSign s
  match readSuffix (s.dropWhile isIntegerChar) with
  | some (named, rest) =>
    if named = type then (readMagnitude type negative s).map fun p => (p.1, rest) else none
  | none => readMagnitude type negative s

/-- A type of floating-point numbers: the suffix that names it and its format. -/
structure FloatType where
  suffix : List Char
  format : BinaryFormat
deriving DecidableEq

namespace FloatType

/-- Single precision. -/
def single : FloatType := ⟨['f', '3', '2'], .single⟩

/-- Double precision. -/
def double : FloatType := ⟨['f', '6', '4'], .double⟩

end FloatType

/-- A character of a floating-point literal. -/
def isFloatChar (c : Char) : Bool :=
  c.isDigit || c = 'e' || c = 'E' || c = '.' || c = '+' || c = '-' || c = '_'

/-- A literal without its underscores, which may stand behind a digit or the mark of the power of
ten; the flag says whether the next character may be one. -/
def stripUnderscores : Bool → List Char → Option (List Char)
  | _, [] => some []
  | allowed, c :: rest =>
    if c = '_' then if allowed then stripUnderscores allowed rest else none
    else
      let next :=
        if c.isDigit || c = 'e' || c = 'E' then true else if c = '.' then false else allowed
      (stripUnderscores next rest).map (c :: ·)

/-- Takes the suffix of a type away, if there is a suffix; that of another type is malformed. -/
def dropFloatSuffix (type : FloatType) (s : List Char) : Option (List Char) :=
  match skipWord FloatType.single.suffix s with
  | some rest => if type.suffix = FloatType.single.suffix then some rest else none
  | none =>
    match skipWord FloatType.double.suffix s with
    | some rest => if type.suffix = FloatType.double.suffix then some rest else none
    | none => some s

/-- A word for a number that is not finite, alone or with the suffix of a type. -/
def readFloatWord (type : FloatType) (word s : List Char) : Option (List Char) := do
  let rest ← dropExact? word s
  let behind ← dropFloatSuffix type rest
  if behind = rest ∧ continuesIdentifier rest then none else some behind

/-- A number of a format that is not finite, with its sign. -/
def readNonFinite (type : FloatType) (s : List Char) : Option (Binary type.format × List Char) :=
  let (negative, unsigned) := splitSign s
  match readFloatWord type ['i', 'n', 'f'] unsigned with
  | some rest => some (Binary.infinite negative, rest)
  | none =>
    (readFloatWord type ['N', 'a', 'N'] unsigned).map fun rest =>
      (Binary.notANumber negative, rest)

/-- A finite number of a format: the nearest one to the decimal that is written. -/
def readFinite (type : FloatType) (s : List Char) : Option (Binary type.format × List Char) := do
  let literal ← stripUnderscores false (s.takeWhile isFloatChar)
  let (negative, d) ← Decimal.ofLiteral? literal
  let rest ← dropFloatSuffix type (s.dropWhile isFloatChar)
  some (d.toBinary type.format negative, rest)

/-- A number of a format. -/
def readFloat (type : FloatType) (s : List Char) : Option (Binary type.format × List Char) :=
  (readNonFinite type s).or (readFinite type s)

end Ron

end ShadingGraph
