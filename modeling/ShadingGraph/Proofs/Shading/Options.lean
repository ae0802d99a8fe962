import Mathlib.Data.List.Induction
import Mathlib.Data.List.TakeWhile
import Mathlib.Data.Nat.Digits.Defs
import ShadingGraph.Shading.Parameter

/-!
# Labels and codes of options

A text that is authored for a property with options is looked for among their labels first and then
among their codes. The code of the option that is found has to be an integer of 32 bits: digits with
at most one sign in front and white space around. Digits are never dropped, whatever their number.

## Main definitions

- `Denotes` — the integer that a text stands for
- `Trims` — what is left of a text without the white space at its ends
- `Selects` — the option that a text selects
- `Resolves` — what comes of a text

## Main results

- `trims_iff` — trimming takes away exactly the white space at both ends
- `parseSigned?_eq_some_iff`, `parseInt32?_eq_some_iff` — which texts are integers
- `selects_iff` — which option is found
- `resolveOption_eq_iff_resolves` — every text comes to what it should, and the code of an option to
  the same as its label
-/

namespace ShadingGraph

/-! ## Integers as texts -/

/-- The number that decimal digits denote, of which the last one counts ones. -/
def decimalValue (ds : List Char) : Nat :=
  Nat.ofDigits 10 (ds.reverse.map fun c => c.toNat - '0'.toNat)

/-- Decimal digits, at least one. -/
def IsNumeral (ds : List Char) : Prop := ds ≠ [] ∧ ∀ c ∈ ds, c.isDigit = true

/-- A text stands for an integer: it is a numeral with at most one sign in front. -/
inductive Denotes : List Char → Int → Prop where
  | plain (ds : List Char) (hds : IsNumeral ds) : Denotes ds (decimalValue ds)
  | plus (ds : List Char) (hds : IsNumeral ds) : Denotes ('+' :: ds) (decimalValue ds)
  | minus (ds : List Char) (hds : IsNumeral ds) : Denotes ('-' :: ds) (-(decimalValue ds : Int))

/-- The integers of 32 bits. -/
def InRange32 (i : Int) : Prop := -2147483648 ≤ i ∧ i ≤ 2147483647

instance : DecidablePred InRange32 := fun i =>
  inferInstanceAs (Decidable (-2147483648 ≤ i ∧ i ≤ 2147483647))

theorem decimalValue_concat (ds : List Char) (c : Char) :
    decimalValue (ds ++ [c]) = 10 * decimalValue ds + (c.toNat - '0'.toNat) := by
  simp [decimalValue, Nat.ofDigits_cons, add_comm]

theorem ofDigitChars_eq_decimalValue (ds : List Char) :
    Nat.ofDigitChars 10 ds 0 = decimalValue ds := by
  induction ds using List.reverseRecOn with
  | nil => rfl
  | append_singleton ds c ih =>
    rw [decimalValue_concat, ← ih, Nat.ofDigitChars_eq_foldl, Nat.ofDigitChars_eq_foldl,
      List.foldl_append]
    rfl

theorem parseDigits?_eq_some_iff {ds : List Char} {n : Nat} :
    parseDigits? ds = some n ↔ IsNumeral ds ∧ decimalValue ds = n := by
  unfold parseDigits? IsNumeral
  rw [ofDigitChars_eq_decimalValue]
  by_cases hempty : ds = []
  · simp [hempty]
  · rw [if_neg (by simpa using hempty), ← List.all_eq_true, and_iff_right hempty]
    by_cases hdigits : ds.all Char.isDigit = true
    · rw [if_pos hdigits, Option.some.injEq, and_iff_right hdigits]
    · rw [if_neg hdigits, iff_false_intro hdigits, false_and]
      exact iff_of_false (Option.some_ne_none n).symm id

/-- No sign is a digit, so that a sign in front is told from a numeral. -/
theorem not_isNumeral_cons {c : Char} (hc : c.isDigit = false) (ds : List Char) :
    ¬ IsNumeral (c :: ds) := by
  rintro ⟨-, hdigits⟩
  rw [hdigits c List.mem_cons_self] at hc
  cases hc

theorem parseSigned?_eq_some_iff {cs : List Char} {i : Int} :
    parseSigned? cs = some i ↔ Denotes cs i := by
  unfold parseSigned?
  split
  · rename_i ds
    simp only [Option.map_eq_some_iff, parseDigits?_eq_some_iff]
    constructor
    · rintro ⟨n, ⟨hds, rfl⟩, rfl⟩
      exact .plus ds hds
    · intro h
      cases h with
      | plain _ hds => exact absurd hds (not_isNumeral_cons (by decide) ds)
      | plus _ hds => exact ⟨_, ⟨hds, rfl⟩, rfl⟩
  · rename_i ds
    simp only [Option.map_eq_some_iff, parseDigits?_eq_some_iff]
    constructor
    · rintro ⟨n, ⟨hds, rfl⟩, rfl⟩
      exact .minus ds hds
    · intro h
      cases h with
      | plain _ hds => exact absurd hds (not_isNumeral_cons (by decide) ds)
      | minus _ hds => exact ⟨_, ⟨hds, rfl⟩, rfl⟩
  · rename_i hplus hminus
    simp only [Option.map_eq_some_iff, parseDigits?_eq_some_iff]
    constructor
    · rintro ⟨n, ⟨hds, rfl⟩, rfl⟩
      exact .plain cs hds
    · intro h
      cases h with
      | plain _ hds => exact ⟨_, ⟨hds, rfl⟩, rfl⟩
      | plus ds _ => exact absurd rfl (hplus ds)
      | minus ds _ => exact absurd rfl (hminus ds)

/-- A text is an integer of 32 bits if the integer that it stands for is in range. -/
theorem parseInt32?_eq_some_iff {cs : List Char} {n : Int32} :
    parseInt32? cs = some n ↔ ∃ i, Denotes cs i ∧ InRange32 i ∧ n.toInt = i := by
  unfold parseInt32?
  simp only [Option.bind_eq_some_iff, parseSigned?_eq_some_iff]
  refine exists_congr fun i => and_congr_right fun _ => ?_
  have hconvert : int32OfInt? i = if InRange32 i then some (Int32.ofInt i) else none := rfl
  rw [hconvert]
  by_cases hrange : InRange32 i
  · have hvalue : (Int32.ofInt i).toInt = i :=
      Int32.toInt_ofInt_of_le hrange.1 (Int.lt_add_one_of_le hrange.2)
    rw [if_pos hrange, Option.some.injEq, and_iff_right hrange, ← Int32.toInt_inj, hvalue, eq_comm]
  · rw [if_neg hrange]
    simp [hrange]

theorem parseInt32?_eq_none_iff {cs : List Char} :
    parseInt32? cs = none ↔ ∀ i, Denotes cs i → ¬ InRange32 i := by
  rw [Option.eq_none_iff_forall_ne_some]
  constructor
  · intro h i hi hrange
    have hvalue : (Int32.ofInt i).toInt = i :=
      Int32.toInt_ofInt_of_le hrange.1 (Int.lt_add_one_of_le hrange.2)
    exact h _ (parseInt32?_eq_some_iff.2 ⟨i, hi, hrange, hvalue⟩)
  · intro h n hn
    obtain ⟨i, hi, hrange, -⟩ := parseInt32?_eq_some_iff.1 hn
    exact h i hi hrange

/-! ## White space at the ends -/

/-- One text is another one without the white space at its ends. -/
structure Trims (s t : List Char) : Prop where
  split : ∃ front back, s = front ++ (t ++ back) ∧ (∀ c ∈ front, isWhiteSpace c = true) ∧
    ∀ c ∈ back, isWhiteSpace c = true
  first : ∀ c ∈ t.head?, isWhiteSpace c = false
  last : ∀ c ∈ t.getLast?, isWhiteSpace c = false

theorem not_of_mem_head?_dropWhile {p : Char → Bool} {s : List Char} {c : Char}
    (h : c ∈ (s.dropWhile p).head?) : p c = false := by
  have hnot := List.head?_dropWhile_not p s
  rw [Option.mem_def.1 h] at hnot
  exact hnot

/-- Trimming leaves nothing else out. -/
theorem dropWhile_eq_trimBlank_append (s : List Char) :
    ∃ back, s.dropWhile isWhiteSpace = trimBlank s ++ back ∧ ∀ c ∈ back, isWhiteSpace c = true := by
  have hsplit : (s.dropWhile isWhiteSpace).reverse.takeWhile isWhiteSpace ++
      (s.dropWhile isWhiteSpace).reverse.dropWhile isWhiteSpace =
        (s.dropWhile isWhiteSpace).reverse := List.takeWhile_append_dropWhile
  refine ⟨((s.dropWhile isWhiteSpace).reverse.takeWhile isWhiteSpace).reverse, ?_, ?_⟩
  · rw [trimBlank, ← List.reverse_append, hsplit, List.reverse_reverse]
  · exact fun c hc => List.mem_takeWhile_imp (List.mem_reverse.1 hc)

theorem trims_trimBlank (s : List Char) : Trims s (trimBlank s) := by
  obtain ⟨back, hinner, hback⟩ := dropWhile_eq_trimBlank_append s
  refine ⟨⟨s.takeWhile isWhiteSpace, back, ?_, ?_, hback⟩, ?_, ?_⟩
  · rw [← hinner, List.takeWhile_append_dropWhile]
  · exact fun c hc => List.mem_takeWhile_imp hc
  · intro c hc
    have hhead : c ∈ (s.dropWhile isWhiteSpace).head? := by
      rw [hinner, List.head?_append, Option.mem_def.1 hc]
      rfl
    exact not_of_mem_head?_dropWhile hhead
  · intro c hc
    rw [trimBlank, List.getLast?_reverse] at hc
    exact not_of_mem_head?_dropWhile hc

/-- White space in front is dropped up to a character that is none. -/
theorem dropWhile_append_of_head? {front t : List Char}
    (hfront : ∀ c ∈ front, isWhiteSpace c = true) (ht : ∀ c ∈ t.head?, isWhiteSpace c = false) :
    (front ++ t).dropWhile isWhiteSpace = t := by
  rw [List.dropWhile_append_of_pos hfront]
  cases t with
  | nil => rfl
  | cons c t => rw [List.dropWhile_cons_of_neg (by simp [ht c rfl])]

/-- Trimming takes away exactly the white space at both ends. -/
theorem trims_iff {s t : List Char} : Trims s t ↔ trimBlank s = t := by
  constructor
  · rintro ⟨⟨front, back, rfl, hfront, hback⟩, hfirst, hlast⟩
    have hreverse : ∀ c ∈ back.reverse, isWhiteSpace c = true := fun c hc =>
      hback c (List.mem_reverse.1 hc)
    cases t with
    | nil =>
      have hnone : (front ++ ([] ++ back)).dropWhile isWhiteSpace = [] :=
        List.dropWhile_eq_nil_iff.2 (List.forall_mem_append.2 ⟨hfront, hback⟩)
      rw [trimBlank, hnone]
      rfl
    | cons c t =>
      have hinner : (front ++ (c :: t ++ back)).dropWhile isWhiteSpace = c :: t ++ back :=
        dropWhile_append_of_head? hfront hfirst
      rw [trimBlank, hinner, List.reverse_append,
        dropWhile_append_of_head? hreverse (by rwa [List.head?_reverse]), List.reverse_reverse]
  · rintro rfl
    exact trims_trimBlank s

/-! ## Options -/

/-- A code stands for an integer, apart from white space at its ends. -/
def CodeDenotes (code : String) (i : Int) : Prop := ∃ text, Trims code.toList text ∧ Denotes text i

/-- A text selects an option, given by its label and its code: the first one that is labelled with
the text, or, where none is, the first one whose code is the text. -/
inductive Selects (options : List (String × String)) (text : String) : String → String → Prop where
  | byLabel (code : String) (front back : List (String × String))
    (hsplit : options = front ++ (text, code) :: back) (hfirst : ∀ o ∈ front, o.1 ≠ text) :
    Selects options text text code
  | byCode (label : String) (front back : List (String × String))
    (hlabels : ∀ o ∈ options, o.1 ≠ text) (hsplit : options = front ++ (label, text) :: back)
    (hfirst : ∀ o ∈ front, o.2 ≠ text) : Selects options text label text

/-- What a text comes to, where it is authored for a property with options. -/
inductive Resolves (options : List (String × String)) (text : String) :
    Except ParameterError Int32 → Prop where
  | code (label code : String) (n : Int32) (hselects : Selects options text label code)
    (hcode : ∃ i, CodeDenotes code i ∧ InRange32 i ∧ n.toInt = i) :
    Resolves options text (.ok n)
  | invalidCode (label code : String) (hselects : Selects options text label code)
    (hcode : ∀ i, CodeDenotes code i → ¬ InRange32 i) :
    Resolves options text (.error (.invalidOptionCode label code))
  | unknown (hnone : ∀ o ∈ options, o.1 ≠ text ∧ o.2 ≠ text) :
    Resolves options text (.error (.unknownOption text))

variable {options : List (String × String)} {text label code : String}

theorem selects_iff :
    Selects options text label code ↔ findOption? text options = some (label, code) := by
  unfold findOption?
  rw [Option.or_eq_some_iff, List.find?_eq_some_iff_append, List.find?_eq_none,
    List.find?_eq_some_iff_append]
  simp only [beq_iff_eq, Bool.not_eq_true', beq_eq_false_iff_ne]
  constructor
  · intro h
    cases h with
    | byLabel _ front back hsplit hfirst => exact .inl ⟨rfl, front, back, hsplit, hfirst⟩
    | byCode _ front back hlabels hsplit hfirst =>
      exact .inr ⟨hlabels, rfl, front, back, hsplit, hfirst⟩
  · rintro (⟨rfl, front, back, hsplit, hfirst⟩ | ⟨hlabels, rfl, front, back, hsplit, hfirst⟩)
    · exact .byLabel code front back hsplit hfirst
    · exact .byCode label front back hlabels hsplit hfirst

theorem findOption?_eq_none_iff :
    findOption? text options = none ↔ ∀ o ∈ options, o.1 ≠ text ∧ o.2 ≠ text := by
  unfold findOption?
  simp only [Option.or_eq_none_iff, List.find?_eq_none, beq_iff_eq, ← forall_and]

theorem codeDenotes_iff {i : Int} :
    CodeDenotes code i ↔ Denotes (trimBlank code.toList) i := by
  simp [CodeDenotes, trims_iff]

theorem resolves_resolveOption (options : List (String × String)) (text : String) :
    Resolves options text (resolveOption text options) := by
  unfold resolveOption
  cases hfind : findOption? text options with
  | none => exact .unknown (findOption?_eq_none_iff.1 hfind)
  | some o =>
    obtain ⟨label, code⟩ := o
    have hselects := selects_iff.2 hfind
    dsimp only
    cases hparse : parseInt32? (trimBlank code.toList) with
    | none =>
      refine .invalidCode label code hselects fun i hi => ?_
      exact parseInt32?_eq_none_iff.1 hparse i (codeDenotes_iff.1 hi)
    | some n =>
      obtain ⟨i, hi, hrange⟩ := parseInt32?_eq_some_iff.1 hparse
      exact .code label code n hselects ⟨i, codeDenotes_iff.2 hi, hrange⟩

/-- A text comes to one thing only. -/
theorem Resolves.eq {r : Except ParameterError Int32} (h : Resolves options text r) :
    resolveOption text options = r := by
  unfold resolveOption
  cases h with
  | code label code n hselects hcode =>
    obtain ⟨i, hi, hrange⟩ := hcode
    rw [selects_iff.1 hselects]
    dsimp only
    rw [parseInt32?_eq_some_iff.2 ⟨i, codeDenotes_iff.1 hi, hrange⟩]
  | invalidCode label code hselects hcode =>
    have hnone : parseInt32? (trimBlank code.toList) = none :=
      parseInt32?_eq_none_iff.2 fun i hi => hcode i (codeDenotes_iff.2 hi)
    rw [selects_iff.1 hselects]
    dsimp only
    rw [hnone]
  | unknown hnone => rw [findOption?_eq_none_iff.2 hnone]

/-- Where labels and codes are told apart, the code of a selected option is not taken for a label,
and selects an option with the same code. -/
theorem Selects.exists_of_code (h : Selects options text label code)
    (hapart : ∀ o ∈ options, ∀ o' ∈ options, o.1 ≠ o'.2) :
    ∃ label', Selects options code label' code := by
  have hmem : (label, code) ∈ options := by
    cases h with
    | byLabel _ front back hsplit => simp [hsplit]
    | byCode _ front back _ hsplit => simp [hsplit]
  have hlabels : (options.find? fun o => o.1 == code) = none :=
    List.find?_eq_none.2 fun o ho heq => hapart o ho (label, code) hmem (eq_of_beq heq)
  obtain ⟨⟨label', code'⟩, ho⟩ : ∃ o, options.find? (fun o => o.2 == code) = some o := by
    rw [← Option.isSome_iff_exists, List.find?_isSome]
    exact ⟨(label, code), hmem, beq_self_eq_true code⟩
  obtain rfl : code' = code := by simpa using List.find?_some ho
  exact ⟨label', selects_iff.2 (by rw [findOption?, hlabels, Option.none_or, ho])⟩

/-- A text comes to the integer that the code of the selected option stands for, to an error where
it stands for none in range, and to another one where no option is selected. Where no label is a
code, the code of the selected option comes to the same integer. -/
theorem resolveOption_eq_iff_resolves (options : List (String × String)) (text : String) :
    (∀ r, resolveOption text options = r ↔ Resolves options text r) ∧
      ((∀ o ∈ options, ∀ o' ∈ options, o.1 ≠ o'.2) → ∀ label code n,
        Selects options text label code → resolveOption text options = .ok n →
          resolveOption code options = .ok n) := by
  refine ⟨fun r => ⟨?_, Resolves.eq⟩, fun hapart label code n hselects hok => ?_⟩
  · rintro rfl
    exact resolves_resolveOption options text
  · have hresolves := resolves_resolveOption options text
    rw [hok] at hresolves
    cases hresolves with
    | code label' code' _ hselects' hcode =>
      have hsame := (selects_iff.1 hselects).symm.trans (selects_iff.1 hselects')
      cases hsame
      obtain ⟨label', hagain⟩ := hselects.exists_of_code hapart
      exact Resolves.eq (.code label' code n hagain hcode)

/-- Options with codes that have signs, white space and too many digits, and a label that comes
twice. -/
def sampleOptions : List (String × String) :=
  [("low", " 0"), ("med", "\t+01\u00a0"), ("least", "-2147483648"), ("med", "7"),
    ("over", "2147483648"), ("broken", "1 0")]

theorem resolveOption_sampleOptions :
    (∀ o ∈ sampleOptions, ∀ o' ∈ sampleOptions, o.1 ≠ o'.2) ∧
      Selects sampleOptions "med" "med" "\t+01\u00a0" ∧
      resolveOption "med" sampleOptions = .ok 1 ∧
      resolveOption "\t+01\u00a0" sampleOptions = .ok 1 := by
  have hapart : ∀ o ∈ sampleOptions, ∀ o' ∈ sampleOptions, o.1 ≠ o'.2 := by decide
  have hselects : Selects sampleOptions "med" "med" "\t+01\u00a0" := selects_iff.2 (by decide)
  have hlabel : resolveOption "med" sampleOptions = .ok 1 := by decide
  exact ⟨hapart, hselects, hlabel,
    (resolveOption_eq_iff_resolves sampleOptions "med").2 hapart _ _ _ hselects hlabel⟩

end ShadingGraph
