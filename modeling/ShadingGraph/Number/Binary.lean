/-!
# Binary floating-point numbers

Numbers of a binary format with a sign, a field of exponent bits and a field of fraction bits. A
number is kept as its sign and its *magnitude*, the bits below the sign read as a natural number.
Magnitudes grow with the value they stand for, so rounding to the format is rounding to the nearest
magnitude. All arithmetic is exact arithmetic of natural numbers and integers. Powers are written
`Nat.pow b n`, which is the same term whether or not powers in monoids are in scope.

## Main definitions

- `BinaryFormat`, with `BinaryFormat.single` and `BinaryFormat.double`
- `Binary` — a number of a format; `Single` and `Double` name the two formats in use
- `Binary.significand`, `Binary.exponent` — a finite number is `significand * 2 ^ exponent`
- `BinaryFormat.nearest` — the magnitude nearest to a quotient, ties to the even one
- `Binary.same` — numeric equality: a NaN differs from everything, the two zeros are equal
- `Binary.convert`, `Binary.ofInt`, `Binary.truncate` — rounding into another format and to integers
-/

namespace ShadingGraph

/-- How many bits a binary format spends on the fraction and on the exponent. -/
structure BinaryFormat where
  fractionBits : Nat
  exponentBits : Nat
deriving DecidableEq

namespace BinaryFormat

/-- Four bytes: 23 bits of fraction, 8 of exponent. -/
def single : BinaryFormat := ⟨23, 8⟩

/-- Eight bytes: 52 bits of fraction, 11 of exponent. -/
def double : BinaryFormat := ⟨52, 11⟩

/-- The weight of the sign bit: magnitudes are smaller. -/
def signBit (f : BinaryFormat) : Nat := Nat.pow 2 (f.exponentBits + f.fractionBits)

/-- The magnitude of infinity: all exponent bits set, no fraction bit. -/
def infinity (f : BinaryFormat) : Nat := (Nat.pow 2 f.exponentBits - 1) * Nat.pow 2 f.fractionBits

/-- The exponent of the last bit of the smallest numbers. -/
def minExponent (f : BinaryFormat) : Int :=
  2 - (Nat.pow 2 (f.exponentBits - 1) : Int) - (f.fractionBits : Int)

theorem infinity_lt_signBit (f : BinaryFormat) : f.infinity < f.signBit := by
  simp only [infinity, signBit, Nat.pow_eq, Nat.pow_add]
  exact Nat.mul_lt_mul_of_pos_right (Nat.sub_lt (Nat.two_pow_pos _) Nat.one_pos)
    (Nat.two_pow_pos _)

end BinaryFormat

/-- The quotient of two natural numbers rounded to the nearest one, a tie to the even one. -/
def roundQuotient (num den : Nat) : Nat :=
  let q := num / den
  let r := num % den
  if 2 * r < den then q else if den < 2 * r then q + 1 else q + q % 2

/-- Whether `2 ^ e` is at most `num / den`. -/
def twoPowLe (e : Int) (num den : Nat) : Bool :=
  decide (den * Nat.pow 2 e.toNat ≤ num * Nat.pow 2 (-e).toNat)

/-- The exponent of the largest power of two that is at most the quotient of two positive
numbers. -/
def binaryOrder (num den : Nat) : Int :=
  let e : Int := (num.log2 : Int) - (den.log2 : Int)
  if twoPowLe e num den then e else e - 1

namespace BinaryFormat

/-- The magnitude nearest to `num / den`, a tie to the even one; what rounds beyond the largest
finite number is infinity. A quotient of order `e` is rounded to a multiple of the weight that its
last fraction bit has, and magnitudes count those multiples on from binade to binade, so that a
carry into the next binade needs no extra step. -/
def nearest (f : BinaryFormat) (num den : Nat) : Nat :=
  if num = 0 then 0
  else
    let q := max (binaryOrder num den - f.fractionBits) f.minExponent
    let m := roundQuotient (num * Nat.pow 2 (-q).toNat) (den * Nat.pow 2 q.toNat)
    min f.infinity ((q - f.minExponent).toNat * Nat.pow 2 f.fractionBits + m)

theorem nearest_le_infinity (f : BinaryFormat) (num den : Nat) :
    f.nearest num den ≤ f.infinity := by
  unfold nearest
  split
  · exact Nat.zero_le _
  · exact Nat.min_le_left _ _

end BinaryFormat

/-- A number of a binary format: its sign and the bits below the sign. -/
structure Binary (f : BinaryFormat) where
  negative : Bool
  magnitude : Nat
  magnitude_lt : magnitude < f.signBit
deriving DecidableEq

/-- A number in single precision. -/
abbrev Single := Binary .single

/-- A number in double precision. -/
abbrev Double := Binary .double

namespace Binary

variable {f g : BinaryFormat}

/-- Positive zero. -/
def zero : Binary f := ⟨false, 0, Nat.two_pow_pos _⟩

instance : Inhabited (Binary f) := ⟨zero⟩

/-- The number with a sign and a magnitude that is at most infinity. -/
def ofMagnitude (negative : Bool) (magnitude : Nat) (h : magnitude ≤ f.infinity) : Binary f :=
  ⟨negative, magnitude, Nat.lt_of_le_of_lt h f.infinity_lt_signBit⟩

/-- Infinity of either sign. -/
def infinite (negative : Bool) : Binary f := ofMagnitude negative f.infinity (Nat.le_refl _)

/-- The magnitude of the NaN that operations produce: infinity with the first fraction bit set. -/
def nanMagnitude (f : BinaryFormat) : Nat := f.infinity + Nat.pow 2 (f.fractionBits - 1)

/-- A NaN of either sign. A format without fraction bits has none and yields infinity. -/
def notANumber (negative : Bool) : Binary f :=
  if h : nanMagnitude f < f.signBit then ⟨negative, nanMagnitude f, h⟩ else infinite negative

/-- Neither finite nor infinite. -/
def isNaN (x : Binary f) : Bool := decide (f.infinity < x.magnitude)

/-- Infinity of either sign. -/
def isInfinite (x : Binary f) : Bool := decide (x.magnitude = f.infinity)

/-- Zero of either sign. -/
def isZero (x : Binary f) : Bool := decide (x.magnitude = 0)

/-- The same number with the given sign. -/
def withSign (x : Binary f) (negative : Bool) : Binary f := { x with negative }

/-- The word of the number: the magnitude, below the sign bit. -/
def word (x : Binary f) : Nat := x.magnitude + if x.negative then f.signBit else 0

/-- The bits of the exponent field. -/
def exponentField (x : Binary f) : Nat := x.magnitude / Nat.pow 2 f.fractionBits

/-- The integer part of the scaled form of a finite number: the fraction bits, below a leading one
unless the exponent field is zero. -/
def significand (x : Binary f) : Nat :=
  x.magnitude % Nat.pow 2 f.fractionBits +
    if x.exponentField = 0 then 0 else Nat.pow 2 f.fractionBits

/-- The exponent of the power of two that the significand of a finite number is multiplied by. -/
def exponent (x : Binary f) : Int := f.minExponent + (x.exponentField - 1 : Nat)

/-- The numerator of the absolute value of a finite number. -/
def numerator (x : Binary f) : Nat := x.significand * Nat.pow 2 x.exponent.toNat

/-- The denominator of the absolute value of a finite number. -/
def denominator (x : Binary f) : Nat := Nat.pow 2 (-x.exponent).toNat

/-- Numeric equality: a NaN differs from everything, itself included, and the zeros are equal. -/
def same (x y : Binary f) : Bool :=
  if x.isNaN || y.isNaN then false
  else if x.isZero && y.isZero then true
  else x.negative == y.negative && x.magnitude == y.magnitude

/-- The number nearest to a quotient with a sign. -/
def ofQuotient (negative : Bool) (num den : Nat) : Binary f :=
  ofMagnitude negative (f.nearest num den) (f.nearest_le_infinity num den)

/-- The nearest number of another format. -/
def convert (x : Binary f) : Binary g :=
  if x.isNaN then notANumber x.negative
  else if x.isInfinite then infinite x.negative
  else ofQuotient x.negative x.numerator x.denominator

/-- The number nearest to an integer. -/
def ofInt (n : Int) : Binary f := ofQuotient (decide (n < 0)) n.natAbs 1

/-- The 32-bit integer nearest to an integer. -/
def saturate (n : Int) : Int32 :=
  if n < -2147483648 then Int32.minValue
  else if 2147483647 < n then Int32.maxValue
  else Int32.ofInt n

/-- The integer part as a 32-bit integer: what lies outside the range becomes the nearest end of the
range, and a NaN becomes zero. -/
def truncate (x : Binary f) : Int32 :=
  if x.isNaN then 0
  else if x.isInfinite then if x.negative then Int32.minValue else Int32.maxValue
  else
    let whole : Int := (x.numerator / x.denominator : Nat)
    saturate (if x.negative then -whole else whole)

end Binary

/-- Three components of one kind: a color, a vector, a point or a normal. -/
structure Triple (α : Type) where
  x : α
  y : α
  z : α
deriving DecidableEq

namespace Triple

variable {α β : Type}

/-- Applies a function to each component. -/
def map (h : α → β) (t : Triple α) : Triple β := ⟨h t.x, h t.y, h t.z⟩

/-- The components in order. -/
def toList (t : Triple α) : List α := [t.x, t.y, t.z]

/-- Component-wise equality. -/
def agrees (same : α → α → Bool) (t u : Triple α) : Bool :=
  same t.x u.x && same t.y u.y && same t.z u.z

end Triple

end ShadingGraph
