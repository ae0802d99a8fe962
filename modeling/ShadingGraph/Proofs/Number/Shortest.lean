import ShadingGraph.Proofs.Number.Rounding

/-!
# Decimals that read back

Whatever grid the search stops at, and also where it finds nothing, the decimal that is written for
a number is rounded to that number.

## Main results

- `Decimal.magnitude_shortest` — the shortest decimal of a number is rounded to the number
- `Decimal.toBinary_shortest` — the same with the sign
-/

namespace ShadingGraph

namespace Decimal

variable {f : BinaryFormat} {tie : Tie} {x : Binary f} {d : Decimal}

/-- Only neighbours that read back are taken from a grid. -/
theorem magnitude_of_onGrid {e : Int} (h : onGrid tie x e = some d) :
    d.magnitude f = x.magnitude := by
  simp only [onGrid] at h
  split at h
  · rename_i hbelow habove
    rw [decide_eq_true_eq] at hbelow habove
    cases h
    cases tie <;> dsimp only <;> split_ifs <;> first | exact hbelow | exact habove
  · rename_i hbelow _
    cases h
    exact of_decide_eq_true hbelow
  · rename_i _ habove
    cases h
    exact of_decide_eq_true habove
  · cases h

theorem magnitude_of_search {count : Nat} {e : Int} (h : search tie x count e = some d) :
    d.magnitude f = x.magnitude := by
  induction count generalizing e with
  | zero => cases h
  | succ count ih =>
    rw [search] at h
    cases hgrid : onGrid tie x e with
    | some found =>
      rw [hgrid] at h
      cases h
      exact magnitude_of_onGrid hgrid
    | none =>
      rw [hgrid] at h
      exact ih h

/-- All digits of a number denote the number. -/
theorem magnitude_exact (hx : x.magnitude ≤ f.infinity) : (exact x).magnitude f = x.magnitude := by
  rw [← x.nearest_numerator_denominator hx, magnitude_eq_nearest]
  have hpos : 0 < x.denominator := by
    simp only [Binary.denominator, Nat.pow_eq]
    positivity
  refine f.nearest_congr (exact x).denominator_pos hpos ?_
  unfold exact
  split_ifs with he
  · have hnone : (-x.exponent).toNat = 0 := by omega
    simp [numerator, denominator, Binary.denominator, hnone]
  · -- five and two to one power make ten, which moves from the digits into the denominator
    have hnone : x.exponent.toNat = 0 := by omega
    simp only [numerator, denominator, Binary.numerator, Binary.denominator, Nat.pow_eq, hnone,
      pow_zero, mul_one]
    rw [Nat.mul_assoc, ← Nat.mul_pow]

theorem magnitude_shortest (tie : Tie) (hx : x.magnitude ≤ f.infinity) :
    (shortest tie x).magnitude f = x.magnitude := by
  unfold shortest
  split_ifs with hzero
  · simpa [magnitude, Binary.isZero, eq_comm] using hzero
  · dsimp only
    cases hsearch : search tie x (f.fractionBits + 4)
        (startExponent (binaryOrder x.numerator x.denominator)) with
    | some d => exact magnitude_of_search hsearch
    | none => exact magnitude_exact hx

/-- The shortest decimal of a number that is no NaN, read with its sign, is the number. -/
theorem toBinary_shortest (tie : Tie) (hx : x.isNaN = false) :
    (shortest tie x).toBinary f x.negative = x := by
  have hmagnitude := magnitude_shortest tie (x := x) (by simpa [Binary.isNaN] using hx)
  cases x
  simp only [toBinary, Binary.ofMagnitude, hmagnitude]

end Decimal

end ShadingGraph
