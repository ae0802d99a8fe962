import Mathlib.Data.List.TakeWhile
import ShadingGraph.Proofs.Number.Shortest
import ShadingGraph.Proofs.Ron.StringLiteral

/-!
# Number literals read back

An integer is read as the digits that were written for it. The text of a number of a binary format
denotes a decimal of the same value as the one that was written, and that decimal is rounded to the
number.

## Main results

- `Decimal.exists_positional` — digits around a point, of the value of the decimal
- `Ron.readInteger_digits` — digits behind a sign are read as the integer that they denote
- `Ron.readInteger_integerText` — a written integer of a type is read as the integer
- `Ron.readFloat_write` — a written number that is no NaN is read as the number
-/

namespace ShadingGraph

/-! ## Digits -/

theorem isDigit_of_mem_digitsOf {n : Nat} {c : Char} (h : c ∈ digitsOf n) : c.isDigit = true :=
  Nat.isDigit_of_mem_toDigits (by decide) (by decide) h

theorem ne_of_isDigit {c mark : Char} (hc : c.isDigit = true) (hmark : mark.isDigit = false) :
    c ≠ mark := by
  rintro rfl
  rw [hc] at hmark
  cases hmark

theorem digitsOf_ne_nil (n : Nat) : digitsOf n ≠ [] := Nat.toDigits_ne_nil

theorem ofDigitChars_digitsOf (n : Nat) : Nat.ofDigitChars 10 (digitsOf n) 0 = n :=
  Nat.ofDigitChars_ten_toDigits

theorem ofDigitChars_append (ds es : List Char) (n : Nat) :
    Nat.ofDigitChars 10 (ds ++ es) n = Nat.ofDigitChars 10 es (Nat.ofDigitChars 10 ds n) := by
  simp only [Nat.ofDigitChars_eq_foldl, List.foldl_append]

theorem ofDigitChars_zeros (k n : Nat) :
    Nat.ofDigitChars 10 (List.replicate k '0') n = n * 10 ^ k := by
  induction k generalizing n with
  | zero => simp
  | succ k ih =>
    rw [List.replicate_succ, Nat.ofDigitChars_eq_foldl, List.foldl_cons,
      ← Nat.ofDigitChars_eq_foldl, ih, pow_succ']
    simp [mul_comm, mul_assoc]

/-- The sign of a number, as it is written. -/
def signText (negative : Bool) : List Char := if negative then ['-'] else []

theorem splitSign_signText (negative : Bool) {ds : List Char} (hne : ds ≠ [])
    (hdigits : ∀ c ∈ ds, c.isDigit = true) (s : List Char) :
    splitSign (signText negative ++ (ds ++ s)) = (negative, ds ++ s) := by
  cases negative with
  | true => rfl
  | false =>
    cases ds with
    | nil => exact absurd rfl hne
    | cons c ds =>
      have hc := hdigits c List.mem_cons_self
      have hplus : c ≠ '+' := ne_of_isDigit hc (by decide)
      have hminus : c ≠ '-' := ne_of_isDigit hc (by decide)
      simp [signText, splitSign, hplus, hminus]

namespace Decimal

/-- The digits with their point denote the decimal that they were written for. -/
theorem exists_positional (d : Decimal) :
    ∃ whole fraction, d.positional true = whole ++ '.' :: fraction ∧ whole ≠ [] ∧
      (∀ c ∈ whole ++ fraction, c.isDigit = true) ∧
      Nat.ofDigitChars 10 (whole ++ fraction) 0 * d.denominator =
        d.numerator * 10 ^ fraction.length := by
  have hdigits : ∀ c ∈ digitsOf d.digits, c.isDigit = true := fun _ => isDigit_of_mem_digitsOf
  have hzeros : ∀ k, ∀ c ∈ List.replicate k '0', c.isDigit = true := by
    intro k c hc
    rw [List.eq_of_mem_replicate hc]
    decide
  have hzero : ∀ c ∈ ['0'], c.isDigit = true := hzeros 1
  simp only [positional, if_true]
  split_ifs with hexp hpoint
  · refine ⟨digitsOf d.digits ++ List.replicate d.exponent.toNat '0', ['0'], rfl, ?_, ?_, ?_⟩
    · simp [digitsOf_ne_nil]
    · exact List.forall_mem_append.2
        ⟨List.forall_mem_append.2 ⟨hdigits, hzeros d.exponent.toNat⟩, hzero⟩
    · have hnone : (-d.exponent).toNat = 0 := by omega
      have hlast : ['0'] = List.replicate 1 '0' := rfl
      rw [ofDigitChars_append, ofDigitChars_append, ofDigitChars_digitsOf, ofDigitChars_zeros,
        hlast, ofDigitChars_zeros]
      simp [numerator, denominator, hnone]
  · refine ⟨(digitsOf d.digits).take d.point.toNat, (digitsOf d.digits).drop d.point.toNat, rfl,
      ?_, ?_, ?_⟩
    · simp [digitsOf_ne_nil]
      omega
    · simpa using hdigits
    · have hnone : d.exponent.toNat = 0 := by omega
      have hlength : (digitsOf d.digits).length - d.point.toNat = (-d.exponent).toNat := by
        simp only [point] at hpoint ⊢
        omega
      simp [ofDigitChars_digitsOf, numerator, denominator, hnone, hlength]
  · refine ⟨['0'], List.replicate (-d.point).toNat '0' ++ digitsOf d.digits, rfl, ?_, ?_, ?_⟩
    · simp
    · exact List.forall_mem_append.2
        ⟨hzero, List.forall_mem_append.2 ⟨hzeros (-d.point).toNat, hdigits⟩⟩
    · have hnone : d.exponent.toNat = 0 := by omega
      have hlength : (-d.point).toNat + (digitsOf d.digits).length = (-d.exponent).toNat := by
        simp only [point] at hpoint ⊢
        omega
      have hfirst : ['0'] = List.replicate 1 '0' := rfl
      rw [ofDigitChars_append, ofDigitChars_append, hfirst, ofDigitChars_zeros, ofDigitChars_zeros]
      simp [ofDigitChars_digitsOf, numerator, denominator, hnone, hlength]

/-- Digits around a point, behind a sign. -/
theorem ofLiteral?_signed (negative : Bool) {whole fraction : List Char} (hwhole : whole ≠ [])
    (hdigits : ∀ c ∈ whole ++ fraction, c.isDigit = true) :
    ofLiteral? (signText negative ++ (whole ++ '.' :: fraction)) =
      some (negative, ⟨Nat.ofDigitChars 10 (whole ++ fraction) 0, -(fraction.length : Int)⟩) := by
  obtain ⟨hfront, hback⟩ := List.forall_mem_append.1 hdigits
  have hsign := splitSign_signText negative hwhole hfront ('.' :: fraction)
  have hstop : '.'.isDigit = false := by decide
  have htake : fraction.takeWhile Char.isDigit = fraction := List.takeWhile_eq_self_iff.2 hback
  have hdrop : fraction.dropWhile Char.isDigit = [] := List.dropWhile_eq_nil_iff.2 hback
  simp only [ofLiteral?, hsign, List.takeWhile_append_of_pos hfront,
    List.dropWhile_append_of_pos hfront]
  simp [hstop, htake, hdrop, hwhole]

end Decimal

namespace Ron

/-! ## Integers -/

theorem splitBase_digits {ds : List Char} (hne : ds ≠ []) (hdigits : ∀ c ∈ ds, c.isDigit = true)
    {rest : List Char} (hrest : Closes rest) : splitBase (ds ++ rest) = (10, ds ++ rest) := by
  have hends : 'b' ∉ tokenEnds ∧ 'o' ∉ tokenEnds ∧ 'x' ∉ tokenEnds := by decide
  have hsecond : ∀ c d tail, ds ++ rest = c :: d :: tail → d ≠ 'b' ∧ d ≠ 'o' ∧ d ≠ 'x' := by
    intro c d tail heq
    match ds, hne with
    | [_], _ =>
      cases heq
      exact ⟨(hrest.ne hends.1).symm, (hrest.ne hends.2.1).symm, (hrest.ne hends.2.2).symm⟩
    | _ :: e :: _, _ =>
      cases heq
      have hd : d.isDigit = true := hdigits d (by simp)
      exact ⟨ne_of_isDigit hd (by decide), ne_of_isDigit hd (by decide),
        ne_of_isDigit hd (by decide)⟩
  unfold splitBase
  split
  · exact absurd rfl (hsecond _ _ _ ‹_›).1
  · exact absurd rfl (hsecond _ _ _ ‹_›).2.1
  · exact absurd rfl (hsecond _ _ _ ‹_›).2.2
  · rfl

theorem numberOfDigits?_digits {ds : List Char} (hdigits : ∀ c ∈ ds, c.isDigit = true) (n : Nat) :
    numberOfDigits? 10 ds n = some (Nat.ofDigitChars 10 ds n) := by
  induction ds generalizing n with
  | nil => rfl
  | cons c ds ih =>
    obtain ⟨hc, hds⟩ := List.forall_mem_cons.1 hdigits
    have hvalue : hexValue? c = some (c.toNat - 48) := by rw [hexValue?, if_pos hc]
    have hbase : c.toNat - 48 < 10 := by
      have := toNat_of_isDigit hc
      omega
    have hunderscore : c ≠ '_' := ne_of_isDigit hc (by decide)
    rw [numberOfDigits?, if_neg hunderscore, hvalue]
    dsimp only
    rw [if_pos hbase, ih hds, Nat.ofDigitChars_eq_foldl, Nat.ofDigitChars_eq_foldl, List.foldl_cons]
    rfl

theorem readSuffix_of_closes {rest : List Char} (h : Closes rest) : readSuffix rest = none := by
  have hsigned : 'i' ∉ tokenEnds := by decide
  have hunsigned : 'u' ∉ tokenEnds := by decide
  simp [readSuffix, IntegerType.all, IntegerType.signed, IntegerType.unsigned,
    skipWord_of_closes _ hsigned h, skipWord_of_closes _ hunsigned h]

theorem integerText_eq (n : Int) :
    integerText n = signText (decide (n < 0)) ++ digitsOf n.natAbs := by
  by_cases h : n < 0 <;> simp [integerText, signText, h]

theorem isIntegerChar_of_isDigit {c : Char} (hc : c.isDigit = true) : isIntegerChar c = true := by
  simp [isIntegerChar, hexValue?, hc]

theorem isIntegerChar_tokenEnds : tokenEnds.any isIntegerChar = false := by decide

/-- The digits of an integer within the range of a type. -/
theorem readMagnitude_digits (type : IntegerType) {negative : Bool} {ds : List Char} {n : Int}
    (hne : ds ≠ []) (hdigits : ∀ c ∈ ds, c.isDigit = true)
    (hn : (if negative then -(Nat.ofDigitChars 10 ds 0 : Int) else Nat.ofDigitChars 10 ds 0) = n)
    (hrange : type.least ≤ n ∧ n ≤ type.greatest) {rest : List Char} (hrest : Closes rest) :
    readMagnitude type negative (ds ++ rest) = some (n, rest) := by
  have hchars : ∀ c ∈ ds, isIntegerChar c = true := fun c hc =>
    isIntegerChar_of_isDigit (hdigits c hc)
  have hstart : (ds.isEmpty || ds.head? == some '_') = false := by
    cases ds with
    | nil => exact absurd rfl hne
    | cons c ds =>
      have hc : c ≠ '_' := ne_of_isDigit (hdigits c List.mem_cons_self) (by decide)
      simp [hc]
  rw [readMagnitude, splitBase_digits hne hdigits hrest]
  dsimp only
  rw [List.takeWhile_append_of_pos hchars, List.dropWhile_append_of_pos hchars,
    hrest.takeWhile isIntegerChar_tokenEnds, hrest.dropWhile isIntegerChar_tokenEnds,
    List.append_nil, numberOfDigits?_digits hdigits, hstart, if_neg Bool.false_ne_true]
  dsimp only [bind, Option.bind]
  rw [hn, if_pos hrange]

/-- Digits behind a sign are read as the integer of a type that they denote. -/
theorem readInteger_digits (type : IntegerType) (negative : Bool) {ds : List Char} {n : Int}
    (hne : ds ≠ []) (hdigits : ∀ c ∈ ds, c.isDigit = true)
    (hn : (if negative then -(Nat.ofDigitChars 10 ds 0 : Int) else Nat.ofDigitChars 10 ds 0) = n)
    (hrange : type.least ≤ n ∧ n ≤ type.greatest) {rest : List Char} (hrest : Closes rest) :
    readInteger type (signText negative ++ (ds ++ rest)) = some (n, rest) := by
  have hchars : ∀ c ∈ ds, isIntegerChar c = true := fun c hc =>
    isIntegerChar_of_isDigit (hdigits c hc)
  rw [readInteger, splitSign_signText negative hne hdigits]
  dsimp only
  rw [List.dropWhile_append_of_pos hchars, hrest.dropWhile isIntegerChar_tokenEnds,
    readSuffix_of_closes hrest]
  exact readMagnitude_digits type hne hdigits hn hrange hrest

/-- A written integer of a type is read as the integer. -/
theorem readInteger_integerText (type : IntegerType) {n : Int}
    (hrange : type.least ≤ n ∧ n ≤ type.greatest) {rest : List Char} (hrest : Closes rest) :
    readInteger type (integerText n ++ rest) = some (n, rest) := by
  have hdigits : ∀ c ∈ digitsOf n.natAbs, c.isDigit = true := fun _ => isDigit_of_mem_digitsOf
  rw [integerText_eq, List.append_assoc]
  refine readInteger_digits type _ (digitsOf_ne_nil n.natAbs) hdigits ?_ hrange hrest
  simp only [ofDigitChars_digitsOf, decide_eq_true_eq]
  split <;> omega

/-! ## Numbers of binary formats -/

theorem stripUnderscores_eq_self {s : List Char} (h : '_' ∉ s) (allowed : Bool) :
    stripUnderscores allowed s = some s := by
  induction s generalizing allowed with
  | nil => rfl
  | cons c s ih =>
    rw [List.mem_cons, not_or] at h
    simp [stripUnderscores, Ne.symm h.1, ih h.2]

theorem dropFloatSuffix_of_closes (type : FloatType) {rest : List Char} (h : Closes rest) :
    dropFloatSuffix type rest = some rest := by
  have hsuffix : 'f' ∉ tokenEnds := by decide
  simp [dropFloatSuffix, FloatType.single, FloatType.double, skipWord_of_closes _ hsuffix h]

theorem write_infinite {f : BinaryFormat} {x : Binary f} (hx : x.isInfinite = true) :
    x.write .document = signText x.negative ++ ['i', 'n', 'f'] := by
  have hnumber : x.isNaN = false := by
    simp only [Binary.isInfinite, decide_eq_true_eq] at hx
    simp [Binary.isNaN, hx]
  simp [Binary.write, hnumber, hx, signText]

theorem write_finite {f : BinaryFormat} {x : Binary f} (hx : x.isNaN = false)
    (hfinite : x.isInfinite = false) :
    x.write .document = signText x.negative ++ (Decimal.shortest .up x).positional true := by
  simp [Binary.write, hx, hfinite, signText, Decimal.layout, FloatStyle.document]

theorem readNonFinite_infinite (type : FloatType) {x : Binary type.format}
    (hx : x.isInfinite = true) {rest : List Char} (hrest : Closes rest) :
    readNonFinite type (signText x.negative ++ (['i', 'n', 'f'] ++ rest)) = some (x, rest) := by
  have hsign : splitSign (signText x.negative ++ (['i', 'n', 'f'] ++ rest)) =
      (x.negative, ['i', 'n', 'f'] ++ rest) := by
    cases x.negative <;> rfl
  have hword : readFloatWord type ['i', 'n', 'f'] (['i', 'n', 'f'] ++ rest) = some rest := by
    rw [readFloatWord, dropExact?_append]
    simp [dropFloatSuffix_of_closes type hrest, hrest.continuesIdentifier]
  have hnumber : Binary.infinite x.negative = x := by
    have hmagnitude : x.magnitude = type.format.infinity := of_decide_eq_true hx
    cases x
    simp only [Binary.infinite, Binary.ofMagnitude, ← hmagnitude]
  rw [readNonFinite, hsign]
  dsimp only
  rw [hword]
  simp [hnumber]

theorem readNonFinite_digits (type : FloatType) (negative : Bool) {ds : List Char} (hne : ds ≠ [])
    (hdigits : ∀ c ∈ ds, c.isDigit = true) (s : List Char) :
    readNonFinite type (signText negative ++ (ds ++ s)) = none := by
  rw [readNonFinite, splitSign_signText negative hne hdigits]
  cases ds with
  | nil => exact absurd rfl hne
  | cons c ds =>
    have hc := hdigits c List.mem_cons_self
    have hfirst : 'i' ≠ c ∧ 'N' ≠ c :=
      ⟨(ne_of_isDigit hc (by decide)).symm, (ne_of_isDigit hc (by decide)).symm⟩
    simp [readFloatWord, dropExact?, hfirst]

/-- Digits around a point, behind a sign, are read as the nearest number to what they denote. -/
theorem readFinite_digits (type : FloatType) (negative : Bool) {whole fraction : List Char}
    (hwhole : whole ≠ []) (hdigits : ∀ c ∈ whole ++ fraction, c.isDigit = true) {rest : List Char}
    (hrest : Closes rest) :
    readFinite type (signText negative ++ (whole ++ '.' :: fraction) ++ rest) =
      some (Decimal.toBinary type.format negative
        ⟨Nat.ofDigitChars 10 (whole ++ fraction) 0, -(fraction.length : Int)⟩, rest) := by
  have hdigit : ∀ c, c.isDigit = true → isFloatChar c = true ∧ c ≠ '_' := by
    intro c hc
    exact ⟨by simp [isFloatChar, hc], ne_of_isDigit hc (by decide)⟩
  have hchars : ∀ c ∈ signText negative ++ (whole ++ '.' :: fraction),
      isFloatChar c = true ∧ c ≠ '_' := by
    intro c hc
    simp only [List.mem_append, List.mem_cons] at hc
    rcases hc with hsign | hfront | rfl | hback
    · have hminus : c = '-' := by
        cases negative <;> simp [signText] at hsign
        exact hsign
      rw [hminus]
      decide
    · exact hdigit c (hdigits c (List.mem_append_left _ hfront))
    · decide
    · exact hdigit c (hdigits c (List.mem_append_right _ hback))
  have hends : tokenEnds.any isFloatChar = false := by decide
  rw [readFinite, List.takeWhile_append_of_pos fun c hc => (hchars c hc).1,
    List.dropWhile_append_of_pos fun c hc => (hchars c hc).1, hrest.takeWhile hends,
    hrest.dropWhile hends, List.append_nil, stripUnderscores_eq_self fun h => (hchars _ h).2 rfl]
  dsimp only [bind, Option.bind]
  rw [Decimal.ofLiteral?_signed negative hwhole hdigits]
  dsimp only
  rw [dropFloatSuffix_of_closes type hrest]

/-- A written number that is no NaN is read as the number. -/
theorem readFloat_write (type : FloatType) {x : Binary type.format} (hx : x.isNaN = false)
    {rest : List Char} (hrest : Closes rest) :
    readFloat type (x.write .document ++ rest) = some (x, rest) := by
  cases hinfinite : x.isInfinite with
  | true =>
    rw [readFloat, write_infinite hinfinite, List.append_assoc,
      readNonFinite_infinite type hinfinite hrest, Option.some_or]
  | false =>
    obtain ⟨whole, fraction, htext, hwhole, hdigits, hvalue⟩ :=
      (Decimal.shortest .up x).exists_positional
    -- a whole number is read with zeros behind its digits, so only the value is the same
    have hnumber : Decimal.toBinary type.format x.negative
        ⟨Nat.ofDigitChars 10 (whole ++ fraction) 0, -(fraction.length : Int)⟩ = x := by
      rw [← Decimal.toBinary_shortest .up hx]
      apply Decimal.toBinary_congr
      simpa [Decimal.numerator, Decimal.denominator] using hvalue
    have hnone : readNonFinite type (signText x.negative ++ (whole ++ '.' :: fraction) ++ rest) =
        none := by
      rw [List.append_assoc, List.append_assoc]
      exact readNonFinite_digits type _ hwhole (List.forall_mem_append.1 hdigits).1 _
    rw [readFloat, write_finite hx hinfinite, htext, hnone,
      readFinite_digits type _ hwhole hdigits hrest, hnumber]
    rfl

end Ron

end ShadingGraph
