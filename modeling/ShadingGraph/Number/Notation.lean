import ShadingGraph.Number.Decimal

/-!
# Written forms of binary numbers

The digits of a number are those of `Decimal.shortest`; a `FloatStyle` says how they are laid out.
Listings write numbers plainly, lists and parameter values are written for inspection, documents
keep a fraction on whole numbers, and the structured report has its own limits for the exponent
form.

## Main definitions

- `FloatStyle` — the decisions of a written form
- `FloatStyle.plain`, `FloatStyle.inspect`, `FloatStyle.document`, `FloatStyle.report`
- `Binary.write` — the text of a number in a style
- `integerText` — the text of an integer
-/

namespace ShadingGraph

/-- The decimal digits of a natural number, without leading zeros. -/
def digitsOf (n : Nat) : List Char := Nat.toDigits 10 n

/-- An integer in decimal, with a minus sign where it is negative. -/
def integerText (n : Int) : List Char :=
  if n < 0 then '-' :: digitsOf n.natAbs else digitsOf n.natAbs

/-- How the digits of a number are laid out. -/
structure FloatStyle where
  /-- Which of two equally near digit strings of least length is written. -/
  tie : Tie
  /-- Whole numbers end in a point and a zero. -/
  pointZero : Bool
  /-- The least and the greatest position of the decimal point, counted from before the first digit,
  at which the point is written; beyond them an exponent is. Without limits it is always written. -/
  pointRange : Option (Int × Int)
  /-- A positive exponent has a plus sign. -/
  plusExponent : Bool
  /-- A NaN shows its sign. -/
  signedNaN : Bool
deriving DecidableEq

namespace FloatStyle

/-- Numbers in listings: no exponent and no fraction on whole numbers. -/
def plain : FloatStyle := ⟨.up, false, none, false, false⟩

/-- Numbers inside lists and parameters: a fraction on whole numbers, and an exponent below
`10 ^ -4` and from `10 ^ 16` on. -/
def inspect : FloatStyle := ⟨.up, true, some (-3, 16), false, false⟩

/-- Numbers in documents: a fraction on whole numbers and never an exponent. -/
def document : FloatStyle := ⟨.up, true, none, false, true⟩

/-- Numbers in reports: a fraction on whole numbers, and a signed exponent below `10 ^ -6` and from
`10 ^ 13` on. -/
def report : FloatStyle := ⟨.even, true, some (-5, 13), true, false⟩

end FloatStyle

namespace Decimal

/-- The position of the decimal point, counted from before the first digit. -/
def point (d : Decimal) : Int := (digitsOf d.digits).length + d.exponent

/-- The digits with the decimal point among, before or behind them. -/
def positional (pointZero : Bool) (d : Decimal) : List Char :=
  let ds := digitsOf d.digits
  if 0 ≤ d.exponent then
    ds ++ List.replicate d.exponent.toNat '0' ++ (if pointZero then ['.', '0'] else [])
  else if 0 < d.point then
    ds.take d.point.toNat ++ '.' :: ds.drop d.point.toNat
  else '0' :: '.' :: (List.replicate (-d.point).toNat '0' ++ ds)

/-- One digit before the point, the others behind it, and the power of ten. -/
def scientific (plusExponent : Bool) (d : Decimal) : List Char :=
  let ds := digitsOf d.digits
  let fraction := if ds.length ≤ 1 then [] else '.' :: ds.drop 1
  let e := d.point - 1
  ds.take 1 ++ fraction ++ 'e' :: ((if plusExponent && 0 ≤ e then ['+'] else []) ++ integerText e)

/-- The digits in a style: zero and what lies within the limits is positional. -/
def layout (style : FloatStyle) (d : Decimal) : List Char :=
  match style.pointRange with
  | none => d.positional style.pointZero
  | some (low, high) =>
    if d.digits = 0 || (low ≤ d.point && d.point ≤ high) then d.positional style.pointZero
    else d.scientific style.plusExponent

end Decimal

namespace Binary

variable {f : BinaryFormat}

/-- The text of a number in a style. -/
def write (style : FloatStyle) (x : Binary f) : List Char :=
  if x.isNaN then (if style.signedNaN && x.negative then ['-'] else []) ++ ['N', 'a', 'N']
  else
    (if x.negative then ['-'] else []) ++
      if x.isInfinite then ['i', 'n', 'f']
      else (Decimal.shortest style.tie x).layout style

/-- The text of a number in a style, as a string. -/
def text (style : FloatStyle) (x : Binary f) : String := String.ofList (x.write style)

end Binary

end ShadingGraph
