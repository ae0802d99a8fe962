import Mathlib.Data.Int.Log
import Mathlib.Data.Rat.Floor
import Mathlib.Tactic.Positivity
import Mathlib.Tactic.Ring
import ShadingGraph.Number.Decimal

/-!
# Rounding to a binary format

The nearest magnitude to a quotient depends on the quotient only, not on how it is written as a
fraction. A number that the format has is its own nearest one, and the limits by which a decimal is
rounded without computing a power of ten do not change what it is rounded to.

## Main results

- `BinaryFormat.nearest_congr` — equal quotients have the same nearest magnitude
- `Binary.nearest_numerator_denominator` — a number that is no NaN is rounded to itself
- `Decimal.magnitude_eq_nearest` — a decimal is rounded as the quotient that it denotes
-/

namespace ShadingGraph

/-! ## Quotients -/

section Quotients

variable {num den : Nat}

theorem two_zpow_mul_pow_toNat (e : Int) : (2 : ℚ) ^ e * 2 ^ (-e).toNat = 2 ^ e.toNat := by
  rw [← zpow_natCast, ← zpow_natCast, ← zpow_add₀ (by norm_num)]
  congr 1
  omega

theorem twoPowLe_iff (e : Int) (hden : 0 < den) :
    twoPowLe e num den = true ↔ (2 : ℚ) ^ e ≤ (num : ℚ) / den := by
  have hden' : (0 : ℚ) < den := Nat.cast_pos.2 hden
  have hscale : (0 : ℚ) < 2 ^ (-e).toNat := by positivity
  have hleft : (2 : ℚ) ^ e * den * 2 ^ (-e).toNat = ((den * 2 ^ e.toNat : ℕ) : ℚ) := by
    push_cast
    rw [← two_zpow_mul_pow_toNat e, mul_right_comm, mul_comm (den : ℚ)]
  have hright : (num : ℚ) * 2 ^ (-e).toNat = ((num * 2 ^ (-e).toNat : ℕ) : ℚ) := by push_cast; rfl
  rw [le_div_iff₀ hden', ← mul_le_mul_iff_left₀ hscale, hleft, hright, Nat.cast_le]
  simp only [twoPowLe, Nat.pow_eq, decide_eq_true_eq]

/-- The order of a quotient is its logarithm. -/
theorem binaryOrder_eq_log (hnum : 0 < num) (hden : 0 < den) :
    binaryOrder num den = Int.log 2 ((num : ℚ) / den) := by
  have hquotient : (0 : ℚ) < (num : ℚ) / den := by positivity
  have hden' : (0 : ℚ) < den := Nat.cast_pos.2 hden
  have hnumLow : (2 : ℚ) ^ num.log2 ≤ num := by exact_mod_cast Nat.log2_self_le hnum.ne'
  have hnumHigh : (num : ℚ) < 2 ^ (num.log2 + 1) := by exact_mod_cast Nat.lt_log2_self
  have hdenLow : (2 : ℚ) ^ den.log2 ≤ den := by exact_mod_cast Nat.log2_self_le hden.ne'
  have hdenHigh : (den : ℚ) < 2 ^ (den.log2 + 1) := by exact_mod_cast Nat.lt_log2_self
  have hlow : (num.log2 : Int) - den.log2 - 1 ≤ Int.log 2 ((num : ℚ) / den) := by
    rw [← Int.zpow_le_iff_le_log (by norm_num) hquotient, le_div_iff₀ hden']
    have hpos : (0 : ℚ) ≤ 2 ^ ((num.log2 : Int) - den.log2 - 1) := (zpow_pos (by norm_num) _).le
    calc ((2 : ℕ) : ℚ) ^ ((num.log2 : Int) - den.log2 - 1) * den
        ≤ 2 ^ ((num.log2 : Int) - den.log2 - 1) * 2 ^ (den.log2 + 1) := by
          exact mul_le_mul_of_nonneg_left hdenHigh.le hpos
      _ = 2 ^ num.log2 := by
          rw [← zpow_natCast, ← zpow_natCast, ← zpow_add₀ (by norm_num)]
          congr 1
          push_cast
          ring
      _ ≤ num := hnumLow
  have hhigh : Int.log 2 ((num : ℚ) / den) < (num.log2 : Int) - den.log2 + 1 := by
    rw [← Int.lt_zpow_iff_log_lt (by norm_num) hquotient, div_lt_iff₀ hden']
    have hpos : (0 : ℚ) ≤ 2 ^ ((num.log2 : Int) - den.log2 + 1) := (zpow_pos (by norm_num) _).le
    calc (num : ℚ) < 2 ^ (num.log2 + 1) := hnumHigh
      _ = 2 ^ ((num.log2 : Int) - den.log2 + 1) * 2 ^ den.log2 := by
          rw [← zpow_natCast, ← zpow_natCast, ← zpow_add₀ (by norm_num)]
          congr 1
          push_cast
          ring
      _ ≤ ((2 : ℕ) : ℚ) ^ ((num.log2 : Int) - den.log2 + 1) * den := by
          exact mul_le_mul_of_nonneg_left hdenLow hpos
  -- the lengths of the two numbers leave two candidates, and the comparison decides between them
  have hreached := (twoPowLe_iff ((num.log2 : Int) - den.log2) hden).trans
    (Int.zpow_le_iff_le_log (b := 2) (by norm_num) hquotient)
  unfold binaryOrder
  dsimp only
  split
  · have := hreached.1 ‹_›
    omega
  · have := mt hreached.2 ‹_›
    omega

theorem le_binaryOrder_iff (hnum : 0 < num) (hden : 0 < den) (e : Int) :
    e ≤ binaryOrder num den ↔ (2 : ℚ) ^ e ≤ (num : ℚ) / den := by
  have hquotient : (0 : ℚ) < (num : ℚ) / den := by positivity
  rw [binaryOrder_eq_log hnum hden, ← Int.zpow_le_iff_le_log (by norm_num) hquotient]
  norm_cast

theorem roundQuotient_mul_right {k : Nat} (hk : 0 < k) :
    roundQuotient (num * k) (den * k) = roundQuotient num den := by
  have hless : 2 * (num % den * k) < den * k ↔ 2 * (num % den) < den := by
    rw [← Nat.mul_assoc, Nat.mul_lt_mul_right hk]
  have hmore : den * k < 2 * (num % den * k) ↔ den < 2 * (num % den) := by
    rw [← Nat.mul_assoc, Nat.mul_lt_mul_right hk]
  simp only [roundQuotient, Nat.mul_div_mul_right _ _ hk, Nat.mul_mod_mul_right, hless, hmore]

theorem roundQuotient_mul_self (n : Nat) (hden : 0 < den) : roundQuotient (n * den) den = n := by
  simp [roundQuotient, Nat.mul_div_cancel _ hden, hden]

theorem le_roundQuotient : num / den ≤ roundQuotient num den := by
  simp only [roundQuotient]
  split_ifs <;> omega

theorem roundQuotient_of_lt_half (h : 2 * num < den) : roundQuotient num den = 0 := by
  have hlt : num < den := by omega
  simp [roundQuotient, Nat.div_eq_of_lt hlt, Nat.mod_eq_of_lt hlt, h]

end Quotients

namespace BinaryFormat

variable (f : BinaryFormat) {num den num' den' : Nat}

/-- What is nearest depends on the quotient only. -/
theorem nearest_congr (hden : 0 < den) (hden' : 0 < den') (h : num * den' = num' * den) :
    f.nearest num den = f.nearest num' den' := by
  rcases Nat.eq_zero_or_pos num with rfl | hnum
  · have hnum' : num' = 0 := by
      have : num' * den = 0 := by rw [← h, Nat.zero_mul]
      exact (Nat.mul_eq_zero.1 this).resolve_right hden.ne'
    rw [hnum']
    rfl
  have hnum' : 0 < num' := by
    refine Nat.pos_of_ne_zero fun h0 => ?_
    rw [h0, Nat.zero_mul] at h
    exact (Nat.mul_pos hnum hden').ne' h
  have hquotient : (num : ℚ) / den = (num' : ℚ) / den' := by
    rw [div_eq_div_iff (by positivity) (by positivity)]
    exact_mod_cast h
  have horder : binaryOrder num den = binaryOrder num' den' := by
    rw [binaryOrder_eq_log hnum hden, binaryOrder_eq_log hnum' hden', hquotient]
  have hround : ∀ a b : Nat,
      roundQuotient (num * a) (den * b) = roundQuotient (num' * a) (den' * b) := by
    intro a b
    calc roundQuotient (num * a) (den * b)
        = roundQuotient (num * a * den') (den * b * den') := (roundQuotient_mul_right hden').symm
      _ = roundQuotient (num' * a * den) (den' * b * den) := by
          congr 1
          · rw [Nat.mul_right_comm, h, Nat.mul_right_comm]
          · ring
      _ = roundQuotient (num' * a) (den' * b) := roundQuotient_mul_right hden
  simp only [nearest, hnum.ne', hnum'.ne', if_false, horder, hround]

/-- A quotient of an order takes the grid of that order, or the finest one. -/
theorem nearest_of_order {e : Int} (hnum : 0 < num) (horder : binaryOrder num den = e) :
    f.nearest num den =
      let q := max (e - f.fractionBits) f.minExponent
      min f.infinity ((q - f.minExponent).toNat * 2 ^ f.fractionBits +
        roundQuotient (num * 2 ^ (-q).toNat) (den * 2 ^ q.toNat)) := by
  simp only [nearest, hnum.ne', if_false, horder, Nat.pow_eq]

theorem binaryOrder_mul_two_pow {s : Nat} (hs : 0 < s) (e : Int) :
    binaryOrder (s * 2 ^ e.toNat) (2 ^ (-e).toNat) = s.log2 + e := by
  have hquotient : ((s * 2 ^ e.toNat : ℕ) : ℚ) / ((2 ^ (-e).toNat : ℕ) : ℚ) = s * 2 ^ e := by
    push_cast
    rw [← two_zpow_mul_pow_toNat e, ← mul_assoc, mul_div_cancel_right₀ _ (by positivity)]
  have hscale : (0 : ℚ) < 2 ^ e := zpow_pos (by norm_num) e
  have hpos : (0 : ℚ) < s * 2 ^ e := mul_pos (Nat.cast_pos.2 hs) hscale
  rw [binaryOrder_eq_log (by positivity) (by positivity), hquotient]
  apply le_antisymm
  · rw [← Int.lt_add_one_iff, ← Int.lt_zpow_iff_log_lt (by norm_num) hpos]
    calc (s : ℚ) * 2 ^ e < 2 ^ (s.log2 + 1) * 2 ^ e := by
          exact mul_lt_mul_of_pos_right (by exact_mod_cast Nat.lt_log2_self) hscale
      _ = ((2 : ℕ) : ℚ) ^ ((s.log2 : Int) + e + 1) := by
          rw [← zpow_natCast, ← zpow_add₀ (by norm_num)]
          push_cast
          congr 1
          ring
  · rw [← Int.zpow_le_iff_le_log (by norm_num) hpos]
    calc ((2 : ℕ) : ℚ) ^ ((s.log2 : Int) + e) = 2 ^ s.log2 * 2 ^ e := by
          rw [← zpow_natCast, ← zpow_add₀ (by norm_num)]
          norm_cast
      _ ≤ s * 2 ^ e := by
          exact mul_le_mul_of_nonneg_right (by exact_mod_cast Nat.log2_self_le hs.ne') hscale.le

/-- On the grid of its order a quotient has a full significand. -/
theorem two_pow_le_roundQuotient (hnum : 0 < num) (hden : 0 < den) :
    let q := binaryOrder num den - f.fractionBits
    2 ^ f.fractionBits ≤ roundQuotient (num * 2 ^ (-q).toNat) (den * 2 ^ q.toNat) := by
  intro q
  refine le_trans ?_ le_roundQuotient
  rw [Nat.le_div_iff_mul_le (by positivity)]
  have hreached := (le_binaryOrder_iff hnum hden _).1 le_rfl
  rw [le_div_iff₀ (by positivity)] at hreached
  have hsplit : (2 : ℚ) ^ f.fractionBits * 2 ^ q.toNat =
      2 ^ binaryOrder num den * 2 ^ (-q).toNat := by
    rw [← two_zpow_mul_pow_toNat q, ← mul_assoc, ← zpow_natCast, ← zpow_add₀ (by norm_num)]
    congr 2
    omega
  have : (2 : ℚ) ^ f.fractionBits * (den * 2 ^ q.toNat) ≤ num * 2 ^ (-q).toNat :=
    calc (2 : ℚ) ^ f.fractionBits * (den * 2 ^ q.toNat)
        = 2 ^ binaryOrder num den * den * 2 ^ (-q).toNat := by
          rw [mul_left_comm, hsplit, mul_left_comm, mul_assoc]
      _ ≤ num * 2 ^ (-q).toNat := mul_le_mul_of_nonneg_right hreached (by positivity)
  exact_mod_cast this

/-- A multiple of a power of two that fills the significand, or of the least power of two, is not
rounded. -/
theorem nearest_mul_two_pow {s : Nat} {e : Int} (hs : 0 < s) (hlt : s < 2 ^ (f.fractionBits + 1))
    (hmin : f.minExponent ≤ e) (hfull : e = f.minExponent ∨ 2 ^ f.fractionBits ≤ s) :
    f.nearest (s * 2 ^ e.toNat) (2 ^ (-e).toNat) =
      min f.infinity ((e - f.minExponent).toNat * 2 ^ f.fractionBits + s) := by
  have hlog : s.log2 ≤ f.fractionBits := Nat.lt_succ_iff.1 ((Nat.log2_lt hs.ne').2 hlt)
  have hgrid : max ((s.log2 : Int) + e - f.fractionBits) f.minExponent = e := by
    rcases hfull with rfl | hfull
    · omega
    · have : f.fractionBits ≤ s.log2 := (Nat.le_log2 hs.ne').2 hfull
      omega
  have hround :
      roundQuotient (s * 2 ^ e.toNat * 2 ^ (-e).toNat) (2 ^ (-e).toNat * 2 ^ e.toNat) = s := by
    rw [Nat.mul_assoc, Nat.mul_comm (2 ^ (-e).toNat)]
    exact roundQuotient_mul_self s (by positivity)
  rw [nearest_of_order f (by positivity) (binaryOrder_mul_two_pow hs e), hgrid]
  dsimp only
  rw [hround]

end BinaryFormat

namespace Binary

variable {f : BinaryFormat} (x : Binary f)

theorem significand_lt : x.significand < 2 ^ (f.fractionBits + 1) := by
  have := Nat.mod_lt x.magnitude (Nat.two_pow_pos f.fractionBits)
  simp only [significand, Nat.pow_eq]
  split <;> omega

theorem significand_eq :
    (x.exponentField - 1) * 2 ^ f.fractionBits + x.significand = x.magnitude := by
  have hsplit := Nat.div_add_mod' x.magnitude (2 ^ f.fractionBits)
  rcases Nat.eq_zero_or_pos x.exponentField with h0 | hpos
  · rw [exponentField, Nat.pow_eq] at h0
    simpa [significand, exponentField, h0] using hsplit
  · obtain ⟨k, hk⟩ := Nat.exists_eq_add_one.2 hpos
    rw [exponentField, Nat.pow_eq] at hk
    rw [hk, Nat.add_mul] at hsplit
    simp only [significand, exponentField, Nat.pow_eq, hk]
    simp
    omega

/-- A number that is no NaN is the nearest one to its own value. -/
theorem nearest_numerator_denominator (hx : x.magnitude ≤ f.infinity) :
    f.nearest x.numerator x.denominator = x.magnitude := by
  have hmin : f.minExponent ≤ x.exponent := by
    simp only [exponent]
    omega
  have hfull : x.exponent = f.minExponent ∨ 2 ^ f.fractionBits ≤ x.significand := by
    rcases Nat.eq_zero_or_pos x.exponentField with h0 | hpos
    · exact Or.inl (by simp [exponent, h0])
    · exact Or.inr (by simp [significand, hpos.ne'])
  have hfield : (x.exponent - f.minExponent).toNat = x.exponentField - 1 := by
    simp only [exponent]
    omega
  rcases Nat.eq_zero_or_pos x.significand with h0 | hs
  · have hzero : x.magnitude = 0 := by
      have hless : ¬ 2 ^ f.fractionBits ≤ x.significand := by
        rw [h0]
        exact (Nat.two_pow_pos _).not_ge
      have := (hfull.resolve_right hless)
      rw [← x.significand_eq, ← hfield, this, h0]
      simp
    simp [numerator, h0, hzero, BinaryFormat.nearest]
  · have hexact := f.nearest_mul_two_pow hs x.significand_lt hmin hfull
    rw [hfield, significand_eq, Nat.min_eq_right hx] at hexact
    simpa only [numerator, denominator, Nat.pow_eq] using hexact

end Binary

namespace Decimal

variable (f : BinaryFormat) (d : Decimal)

theorem denominator_pos : 0 < d.denominator := by
  simp only [denominator, Nat.pow_eq]
  positivity

theorem numerator_pos {d : Decimal} (hdigits : d.digits ≠ 0) : 0 < d.numerator := by
  simp only [numerator, Nat.pow_eq]
  positivity

/-- Beyond the range of the exponent field everything is rounded to infinity. -/
theorem nearest_of_large {d : Decimal} (hdigits : d.digits ≠ 0)
    (hlarge : (2 ^ (f.exponentBits - 1) : Int) ≤ d.exponent) :
    f.nearest d.numerator d.denominator = f.infinity := by
  have hbits : (1 : Int) ≤ 2 ^ (f.exponentBits - 1) := by
    exact_mod_cast Nat.one_le_two_pow
  have hmin : f.minExponent = 2 - 2 ^ (f.exponentBits - 1) - f.fractionBits := by
    simp [BinaryFormat.minExponent]
  have horder : d.exponent ≤ binaryOrder d.numerator d.denominator := by
    rw [le_binaryOrder_iff (numerator_pos hdigits) d.denominator_pos]
    have hnonpos : (-d.exponent).toNat = 0 := by omega
    have hnonneg : ((d.exponent.toNat : ℕ) : Int) = d.exponent := by omega
    have hpow : 2 ^ d.exponent.toNat ≤ d.digits * 10 ^ d.exponent.toNat :=
      calc 2 ^ d.exponent.toNat ≤ 10 ^ d.exponent.toNat := Nat.pow_le_pow_left (by norm_num) _
        _ ≤ d.digits * 10 ^ d.exponent.toNat :=
            Nat.le_mul_of_pos_left _ (Nat.pos_of_ne_zero hdigits)
    rw [← hnonneg, zpow_natCast]
    simp only [numerator, denominator, Nat.pow_eq, hnonpos]
    have hcast : ((2 ^ d.exponent.toNat : ℕ) : ℚ) ≤ ((d.digits * 10 ^ d.exponent.toNat : ℕ) : ℚ) :=
      Nat.cast_le.2 hpow
    simpa using hcast
  have hgrid : max (binaryOrder d.numerator d.denominator - f.fractionBits) f.minExponent =
      binaryOrder d.numerator d.denominator - f.fractionBits := by omega
  have hfull := f.two_pow_le_roundQuotient (numerator_pos hdigits) d.denominator_pos
  have hfields : 2 ^ f.exponentBits - 2 ≤
      (binaryOrder d.numerator d.denominator - f.fractionBits - f.minExponent).toNat := by
    have hdouble : 2 ^ f.exponentBits ≤ 2 * 2 ^ (f.exponentBits - 1) := by
      rw [← Nat.pow_succ']
      exact Nat.pow_le_pow_right (by norm_num) (by omega)
    have hcast : ((2 ^ (f.exponentBits - 1) : ℕ) : Int) = 2 ^ (f.exponentBits - 1) := by norm_cast
    omega
  rw [f.nearest_of_order (numerator_pos hdigits) rfl, hgrid]
  apply Nat.min_eq_left
  -- as many full binades lie below as the exponent field can count
  calc f.infinity = (2 ^ f.exponentBits - 1) * 2 ^ f.fractionBits := by
        simp [BinaryFormat.infinity]
    _ ≤ (2 ^ f.exponentBits - 2 + 1) * 2 ^ f.fractionBits :=
        Nat.mul_le_mul_right _ (by omega)
    _ = (2 ^ f.exponentBits - 2) * 2 ^ f.fractionBits + 2 ^ f.fractionBits := by ring
    _ ≤ _ := Nat.add_le_add (Nat.mul_le_mul_right _ hfields) hfull

/-- Below half of the least number everything is rounded to zero. -/
theorem nearest_of_small {d : Decimal} (hdigits : d.digits ≠ 0) (hneg : d.exponent < 0)
    (hsmall : (d.digits.log2 : Int) + 2 + d.exponent ≤ f.minExponent) :
    f.nearest d.numerator d.denominator = 0 := by
  have hnum : d.numerator = d.digits := by
    have : d.exponent.toNat = 0 := by omega
    simp [numerator, this]
  have hpow : d.denominator = 10 ^ (-d.exponent).toNat := by simp [denominator]
  have hdigitsLt : d.digits < 2 ^ (d.digits.log2 + 1) := Nat.lt_log2_self
  have htwo : 2 ^ (-d.exponent).toNat ≤ d.denominator := by
    rw [hpow]
    exact Nat.pow_le_pow_left (by norm_num) _
  have horder : binaryOrder d.numerator d.denominator < d.digits.log2 + 1 + d.exponent := by
    have hden : (0 : ℚ) < d.denominator := Nat.cast_pos.2 d.denominator_pos
    rw [← not_le, le_binaryOrder_iff (numerator_pos hdigits) d.denominator_pos, not_le,
      div_lt_iff₀ hden, hnum]
    calc (d.digits : ℚ) < 2 ^ (d.digits.log2 + 1) := by exact_mod_cast hdigitsLt
      _ = 2 ^ ((d.digits.log2 : Int) + 1 + d.exponent) * 2 ^ (-d.exponent).toNat := by
          rw [← zpow_natCast, ← zpow_natCast, ← zpow_add₀ (by norm_num)]
          congr 1
          push_cast
          omega
      _ ≤ 2 ^ ((d.digits.log2 : Int) + 1 + d.exponent) * d.denominator :=
          mul_le_mul_of_nonneg_left (by exact_mod_cast htwo) (zpow_pos (by norm_num) _).le
  have hgrid : max (binaryOrder d.numerator d.denominator - f.fractionBits) f.minExponent =
      f.minExponent := by omega
  have hhalf : 2 * (d.numerator * 2 ^ (-f.minExponent).toNat) <
      d.denominator * 2 ^ f.minExponent.toNat := by
    calc 2 * (d.numerator * 2 ^ (-f.minExponent).toNat)
        = d.digits * (2 * 2 ^ (-f.minExponent).toNat) := by rw [hnum]; ring
      _ < 2 ^ (d.digits.log2 + 1) * (2 * 2 ^ (-f.minExponent).toNat) :=
          Nat.mul_lt_mul_of_pos_right hdigitsLt (by positivity)
      _ = 2 ^ (d.digits.log2 + 2 + (-f.minExponent).toNat) := by ring
      _ ≤ 2 ^ ((-d.exponent).toNat + f.minExponent.toNat) :=
          Nat.pow_le_pow_right (by norm_num) (by omega)
      _ = 2 ^ (-d.exponent).toNat * 2 ^ f.minExponent.toNat := Nat.pow_add _ _ _
      _ ≤ d.denominator * 2 ^ f.minExponent.toNat := Nat.mul_le_mul_right _ htwo
  rw [f.nearest_of_order (numerator_pos hdigits) rfl, hgrid]
  dsimp only
  rw [roundQuotient_of_lt_half hhalf]
  simp

/-- A decimal is rounded as the quotient that it denotes: the two limits that are decided from the
exponent only save the work. -/
theorem magnitude_eq_nearest : d.magnitude f = f.nearest d.numerator d.denominator := by
  unfold magnitude
  split_ifs with hdigits hlarge hsmall
  · simp [numerator, hdigits, BinaryFormat.nearest]
  · exact (nearest_of_large f hdigits (by simpa using hlarge)).symm
  · exact (nearest_of_small f hdigits hsmall.1 hsmall.2).symm
  · rfl

/-- Decimals of one value are rounded to the same number. -/
theorem magnitude_congr {d d' : Decimal}
    (h : d.numerator * d'.denominator = d'.numerator * d.denominator) :
    d.magnitude f = d'.magnitude f := by
  rw [magnitude_eq_nearest, magnitude_eq_nearest]
  exact f.nearest_congr d.denominator_pos d'.denominator_pos h

theorem toBinary_congr {d d' : Decimal}
    (h : d.numerator * d'.denominator = d'.numerator * d.denominator) (negative : Bool) :
    d.toBinary f negative = d'.toBinary f negative := by
  simp only [toBinary, Binary.ofMagnitude, magnitude_congr f h]

end Decimal

end ShadingGraph
