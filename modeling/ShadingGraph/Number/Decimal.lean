import ShadingGraph.Number.Binary

/-!
# Decimal numbers

The bridge between binary numbers and their decimal texts. Reading rounds a decimal to the nearest
binary number. Writing looks for the decimal with the fewest digits that reads back as the number,
on one power of ten after the other, from coarse to fine: on each grid only the two neighbours of
the number can be the nearest that read back.

## Main definitions

- `Decimal` — digits and a power of ten
- `Decimal.toBinary` — the nearest number of a binary format
- `Decimal.shortest` — the shortest decimal that reads back, the nearest one of that length
-/

namespace ShadingGraph

/-- The number `digits * 10 ^ exponent`. -/
structure Decimal where
  digits : Nat
  exponent : Int
deriving DecidableEq, Inhabited

/-- Which of two equally near neighbours is taken. -/
inductive Tie where
  /-- The larger one. -/
  | up
  /-- The one whose last digit is even. -/
  | even
deriving DecidableEq

namespace Decimal

/-- The numerator of the value. -/
def numerator (d : Decimal) : Nat := d.digits * Nat.pow 10 d.exponent.toNat

/-- The denominator of the value. -/
def denominator (d : Decimal) : Nat := Nat.pow 10 (-d.exponent).toNat

/-- The nearest magnitude of a format. A power of ten beyond the range of the exponent field exceeds
every finite number, and a number below half of the smallest one is zero; both are decided from the
exponent, so that no large power of ten is ever computed. -/
def magnitude (f : BinaryFormat) (d : Decimal) : Nat :=
  if d.digits = 0 then 0
  else if (Nat.pow 2 (f.exponentBits - 1) : Int) ≤ d.exponent then f.infinity
  else if d.exponent < 0 ∧ (d.digits.log2 : Int) + 2 + d.exponent ≤ f.minExponent then 0
  else f.nearest d.numerator d.denominator

theorem magnitude_le_infinity (f : BinaryFormat) (d : Decimal) : d.magnitude f ≤ f.infinity := by
  unfold magnitude
  split
  · exact Nat.zero_le _
  · split
    · exact Nat.le_refl _
    · split
      · exact Nat.zero_le _
      · exact f.nearest_le_infinity _ _

/-- The nearest number of a format, with a sign. -/
def toBinary (f : BinaryFormat) (negative : Bool) (d : Decimal) : Binary f :=
  Binary.ofMagnitude negative (d.magnitude f) (d.magnitude_le_infinity f)

/-- The value of a finite number as a decimal, with all its digits. -/
def exact {f : BinaryFormat} (x : Binary f) : Decimal :=
  if 0 ≤ x.exponent then ⟨x.numerator, 0⟩
  else ⟨x.significand * Nat.pow 5 (-x.exponent).toNat, x.exponent⟩

/-- The better one of the two neighbours of a number on the grid of multiples of `10 ^ e`, if one of
them reads back as the number. -/
def onGrid {f : BinaryFormat} (tie : Tie) (x : Binary f) (e : Int) : Option Decimal :=
  let num := x.numerator * Nat.pow 10 (-e).toNat
  let den := x.denominator * Nat.pow 10 e.toNat
  let below : Decimal := ⟨num / den, e⟩
  let above : Decimal := ⟨num / den + 1, e⟩
  let r := num % den
  let nearer :=
    if 2 * r < den then below
    else if den < 2 * r then above
    else match tie with
      | .up => above
      | .even => if below.digits % 2 = 0 then below else above
  match decide (below.magnitude f = x.magnitude), decide (above.magnitude f = x.magnitude) with
  | true, true => some nearer
  | true, false => some below
  | false, true => some above
  | false, false => none

/-- The first grid with a neighbour that reads back, among as many powers of ten as `count` says,
downward from `10 ^ e`. -/
def search {f : BinaryFormat} (tie : Tie) (x : Binary f) : Nat → Int → Option Decimal
  | 0, _ => none
  | count + 1, e => (onGrid tie x e).orElse fun _ => search tie x count (e - 1)

/-- A power of ten above every number whose order is `e`: a factor of two is less than
`30103 / 100000` of a factor of ten. -/
def startExponent (e : Int) : Int := (e + 1) * 30103 / 100000 + 1

/-- The decimal with the fewest digits that reads back as a finite number, and among those the
nearest. Zero has no digits at all. -/
def shortest {f : BinaryFormat} (tie : Tie) (x : Binary f) : Decimal :=
  if x.isZero then ⟨0, 0⟩
  else
    let start := startExponent (binaryOrder x.numerator x.denominator)
    (search tie x (f.fractionBits + 4) start).getD (exact x)

end Decimal

end ShadingGraph
