import ShadingGraph.Ron.Document
import ShadingGraph.Ron.Writer

/-!
# Where tokens begin and end

A value or a name begins with a character that no gap swallows, and ends where a gap, a mark or the
end of the document follows. Between the two, gaps, commas and names are read exactly as they were
written.

## Main definitions

- `Ron.Opens`, `Ron.Closes` — texts that begin as a value does, and texts that may stand behind one

## Main results

- `Ron.skipGap_of_skipGap` — behind a gap there is no further gap
- `Ron.readIdentifier_append` — a name is read up to its end
-/

namespace ShadingGraph

namespace Ron

/-! ## Gaps -/

/-- The marks that end a container. -/
def isClosing (c : Char) : Bool := c == ')' || c == ']' || c == '}'

/-- A character that begins a value: neither a gap nor a closing mark begins with it. -/
def isOpening (c : Char) : Bool := !isPatternBlank c && c != '/' && !isClosing c

/-- A text that begins as a value does. -/
def Opens (s : List Char) : Prop := ∃ c rest, s = c :: rest ∧ isOpening c = true

/-- The blanks between tokens. -/
def blanks : List Char :=
  ['\t', '\n', '\x0b', '\x0c', '\r', ' ', '\u0085', '\u200e', '\u200f', '\u2028', '\u2029']

/-- The marks between values. -/
def marks : List Char := [',', ':', '(', ')', ']', '}']

/-- The characters that continue neither a name nor a number: those that a gap begins with, and
marks. -/
def tokenEnds : List Char := '/' :: (blanks ++ marks)

/-- What may stand behind a value or a name: nothing, a gap or a mark. -/
def Closes : List Char → Prop
  | [] => True
  | c :: _ => c ∈ tokenEnds

/-- A text that begins with no gap. -/
def Gapless : List Char → Prop
  | [] => True
  | c :: _ => c ≠ '/' ∧ isPatternBlank c = false

theorem skipGap_of_gapless {s : List Char} (h : Gapless s) : skipGap s = some s := by
  cases s with
  | nil => rfl
  | cons c rest =>
    obtain ⟨hslash, hblank⟩ := h
    simp [skipGap, skipGapFrom, hslash, hblank]

theorem gapless_of_skipGapFrom {gap : Gap} {s rest : List Char}
    (h : skipGapFrom gap s = some rest) : Gapless rest := by
  -- only between blanks is something left, and what begins with a blank or a slash never is
  fun_induction skipGapFrom gap s <;> grind [Gapless]

/-- Behind a gap there is no further gap. -/
theorem skipGap_of_skipGap {s rest : List Char} (h : skipGap s = some rest) :
    skipGap rest = some rest :=
  skipGap_of_gapless (gapless_of_skipGapFrom h)

theorem skipGap_cons_blank {c : Char} (hblank : isPatternBlank c = true) (s : List Char) :
    skipGap (c :: s) = skipGap s := by
  have hslash : c ≠ '/' := by
    rintro rfl
    exact absurd hblank (by decide)
  simp [skipGap, skipGapFrom, hslash, hblank]

/-! ## Beginnings and ends of values -/

theorem Opens.append {s : List Char} (h : Opens s) (t : List Char) : Opens (s ++ t) := by
  obtain ⟨c, rest, rfl, hc⟩ := h
  exact ⟨c, rest ++ t, rfl, hc⟩

theorem opens_cons {c : Char} {rest : List Char} (h : isOpening c = true) : Opens (c :: rest) :=
  ⟨c, rest, rfl, h⟩

theorem Opens.gapless {s : List Char} (h : Opens s) : Gapless s := by
  obtain ⟨c, rest, rfl, hc⟩ := h
  simp only [isOpening, Bool.and_eq_true, Bool.not_eq_true', bne_iff_ne] at hc
  exact ⟨hc.1.2, hc.1.1⟩

theorem Opens.skipGap {s : List Char} (h : Opens s) : skipGap s = some s :=
  skipGap_of_gapless h.gapless

/-- A closing mark does not begin a value. -/
theorem Opens.head?_ne {s : List Char} (h : Opens s) {mark : Char} (hmark : isClosing mark = true) :
    (s.head? == some mark) = false := by
  obtain ⟨c, rest, rfl, hc⟩ := h
  have hne : c ≠ mark := by
    rintro rfl
    simp [isOpening, hmark] at hc
  simpa using hne

theorem skipGap_mark {mark : Char} (h : mark ∈ marks) (s : List Char) :
    skipGap (mark :: s) = some (mark :: s) := by
  have hslash : '/' ∉ marks := by decide
  have hblank : marks.any isPatternBlank = false := by decide
  have hmark : isPatternBlank mark = false := by simpa using List.any_eq_false.1 hblank mark h
  exact skipGap_of_gapless ⟨ne_of_mem_of_not_mem h hslash, hmark⟩

theorem mem_marks_of_isClosing {mark : Char} (h : isClosing mark = true) : mark ∈ marks := by
  simp only [isClosing, Bool.or_eq_true, beq_iff_eq] at h
  rcases h with (rfl | rfl) | rfl <;> decide

theorem skipGap_closing {mark : Char} (h : isClosing mark = true) (s : List Char) :
    skipGap (mark :: s) = some (mark :: s) :=
  skipGap_mark (mem_marks_of_isClosing h) s

theorem skipGap_parenthesis (s : List Char) : skipGap ('(' :: s) = some ('(' :: s) :=
  skipGap_mark (by decide) s

theorem closes_mark {mark : Char} (h : mark ∈ marks) (s : List Char) : Closes (mark :: s) :=
  List.mem_cons_of_mem _ (List.mem_append_right blanks h)

theorem Closes.ne {c d : Char} {s : List Char} (h : Closes (c :: s)) (hd : d ∉ tokenEnds) :
    d ≠ c :=
  (ne_of_mem_of_not_mem h hd).symm

theorem Closes.eq_false {c : Char} {s : List Char} (h : Closes (c :: s)) {p : Char → Bool}
    (hends : tokenEnds.any p = false) : p c = false := by
  simpa using List.any_eq_false.1 hends c h

/-- Nothing that stands behind a value has a property that the ends of tokens lack. -/
theorem Closes.takeWhile {s : List Char} (h : Closes s) {p : Char → Bool}
    (hends : tokenEnds.any p = false) : s.takeWhile p = [] := by
  cases s with
  | nil => rfl
  | cons c rest => simp [h.eq_false hends]

theorem Closes.dropWhile {s : List Char} (h : Closes s) {p : Char → Bool}
    (hends : tokenEnds.any p = false) : s.dropWhile p = s := by
  cases s with
  | nil => rfl
  | cons c rest => simp [h.eq_false hends]

theorem isIdentifierContinue_tokenEnds : tokenEnds.any isIdentifierContinue = false := by
  decide +kernel

theorem Closes.continuesIdentifier {s : List Char} (h : Closes s) :
    continuesIdentifier s = false := by
  cases s with
  | nil => rfl
  | cons c rest => exact h.eq_false isIdentifierContinue_tokenEnds

theorem readComma_comma {s rest : List Char} (h : skipGap s = some rest) :
    readComma (',' :: s) = some (true, rest) := by
  simp [readComma, skipGap_mark (show ',' ∈ marks by decide), h]

theorem readComma_closing {mark : Char} (h : isClosing mark = true) (s : List Char) :
    readComma (mark :: s) = some (false, mark :: s) := by
  have hcomma : mark ≠ ',' := by
    rintro rfl
    exact absurd h (by decide)
  simp [readComma, skipGap_closing h, hcomma]

theorem readComma_parenthesis (s : List Char) : readComma (')' :: s) = some (false, ')' :: s) :=
  readComma_closing (by decide) s

/-! ## Words and names -/

theorem dropExact?_append (word rest : List Char) : dropExact? word (word ++ rest) = some rest := by
  induction word with
  | nil => rfl
  | cons c word ih => simp [dropExact?, ih]

theorem skipWord_append {word rest : List Char} (h : continuesIdentifier rest = false) :
    skipWord word (word ++ rest) = some rest := by
  simp [skipWord, dropExact?_append, h]

/-- No word begins behind a value. -/
theorem skipWord_of_closes {c : Char} (word : List Char) {rest : List Char}
    (hc : c ∉ tokenEnds) (h : Closes rest) : skipWord (c :: word) rest = none := by
  cases rest with
  | nil => rfl
  | cons d rest =>
    simp [skipWord, dropExact?, h.ne hc]

/-- A character of the names that are written. -/
def isNameChar (c : Char) : Bool := c.isAlphanum || c == '_'

/-- A name as it is written: a letter, then letters, digits and underscores. -/
def isName : List Char → Bool
  | [] => false
  | c :: cs => c.isAlpha && cs.all isNameChar

theorem toNat_of_isAlpha {c : Char} (h : c.isAlpha = true) :
    65 ≤ c.toNat ∧ c.toNat ≤ 90 ∨ 97 ≤ c.toNat ∧ c.toNat ≤ 122 := by
  rcases Bool.or_eq_true_iff.1 h with hupper | hlower
  · have hrange : c.val ≥ 'A'.val ∧ c.val ≤ 'Z'.val := of_decide_eq_true hupper
    exact Or.inl ⟨UInt32.le_iff_toNat_le.1 hrange.1, UInt32.le_iff_toNat_le.1 hrange.2⟩
  · have hrange := Bool.and_eq_true_iff.1 hlower
    exact Or.inr ⟨UInt32.le_iff_toNat_le.1 (of_decide_eq_true hrange.1),
      UInt32.le_iff_toNat_le.1 (of_decide_eq_true hrange.2)⟩

theorem toNat_of_isDigit {c : Char} (h : c.isDigit = true) : 48 ≤ c.toNat ∧ c.toNat ≤ 57 := by
  simpa [Char.isDigit, UInt32.le_iff_toNat_le] using h

theorem isIdentifierStart_of_isAlpha {c : Char} (h : c.isAlpha = true) :
    isIdentifierStart c = true := by
  have htable : ∀ n < 123, (65 ≤ n ∧ n ≤ 90 ∨ 97 ≤ n ∧ n ≤ 122) →
      CodePointSet.follow n CodePointSet.xidStart.changes false = true := by decide
  have hrange := toNat_of_isAlpha h
  rw [isIdentifierStart, CodePointSet.contains, htable _ (by omega) hrange, Bool.or_true]

theorem isIdentifierContinue_of_isNameChar {c : Char} (h : isNameChar c = true) :
    isIdentifierContinue c = true := by
  have htable : ∀ n < 123,
      (48 ≤ n ∧ n ≤ 57 ∨ 65 ≤ n ∧ n ≤ 90 ∨ n = 95 ∨ 97 ≤ n ∧ n ≤ 122) →
      CodePointSet.follow n CodePointSet.xidContinue.changes false = true := by decide
  have hrange : 48 ≤ c.toNat ∧ c.toNat ≤ 57 ∨ 65 ≤ c.toNat ∧ c.toNat ≤ 90 ∨ c.toNat = 95 ∨
      97 ≤ c.toNat ∧ c.toNat ≤ 122 := by
    simp only [isNameChar, Char.isAlphanum, Bool.or_eq_true, beq_iff_eq] at h
    rcases h with (halpha | hdigit) | rfl
    · have := toNat_of_isAlpha halpha
      omega
    · exact Or.inl (toNat_of_isDigit hdigit)
    · decide
  rw [isIdentifierContinue, CodePointSet.contains, htable _ (by omega) hrange]

theorem isOpening_of_isAlphanum {c : Char} (h : c.isAlphanum = true) : isOpening c = true := by
  have htable : ∀ n < 123, (48 ≤ n ∧ n ≤ 57 ∨ 65 ≤ n ∧ n ≤ 90 ∨ 97 ≤ n ∧ n ≤ 122) →
      CodePointSet.follow n CodePointSet.patternWhiteSpace.changes false = false := by decide
  have hrange : 48 ≤ c.toNat ∧ c.toNat ≤ 57 ∨ 65 ≤ c.toNat ∧ c.toNat ≤ 90 ∨
      97 ≤ c.toNat ∧ c.toNat ≤ 122 := by
    rcases Bool.or_eq_true_iff.1 h with halpha | hdigit
    · exact Or.inr (toNat_of_isAlpha halpha)
    · exact Or.inl (toNat_of_isDigit hdigit)
  have hmark : c ≠ '/' ∧ c ≠ ')' ∧ c ≠ ']' ∧ c ≠ '}' := by
    refine ⟨?_, ?_, ?_, ?_⟩ <;> rintro rfl <;> exact absurd h (by decide)
  simp [isOpening, isClosing, isPatternBlank, CodePointSet.contains, htable _ (by omega) hrange,
    hmark]

theorem Opens.of_isName {name : List Char} (h : isName name = true) : Opens name := by
  cases name with
  | nil => cases h
  | cons c cs =>
    rw [isName, Bool.and_eq_true] at h
    exact opens_cons (isOpening_of_isAlphanum (by simp [Char.isAlphanum, h.1]))

theorem continuesIdentifier_append {name : List Char} (h : isName name = true) (rest : List Char) :
    continuesIdentifier (name ++ rest) = true := by
  cases name with
  | nil => cases h
  | cons c cs =>
    rw [isName, Bool.and_eq_true] at h
    exact isIdentifierContinue_of_isNameChar (by simp [isNameChar, Char.isAlphanum, h.1])

theorem ne_of_isNameChar {c : Char} (h : isNameChar c = true) : '"' ≠ c ∧ '\'' ≠ c ∧ '#' ≠ c := by
  refine ⟨?_, ?_, ?_⟩ <;> rintro rfl <;> exact absurd h (by decide)

/-- No literal begins with a name: in front of the quote or hash mark that makes it one, there are
letters, and behind the name stands neither. -/
theorem startsLiteral_append {name rest : List Char} (hname : isName name = true)
    (hrest : Closes rest) : startsLiteral (name ++ rest) = false := by
  have hends : '"' ∉ tokenEnds ∧ '\'' ∉ tokenEnds ∧ '#' ∉ tokenEnds ∧ 'r' ∉ tokenEnds := by decide
  match name, hname with
  | [c], _ =>
    cases rest with
    | nil => simp [startsLiteral, literalStarts, List.isPrefixOf]
    | cons d rest =>
      simp [startsLiteral, literalStarts, List.isPrefixOf, hrest.ne hends.1, hrest.ne hends.2.1,
        hrest.ne hends.2.2.1, hrest.ne hends.2.2.2]
  | [c, d], hname =>
    simp only [isName, List.all_cons, List.all_nil, Bool.and_true, Bool.and_eq_true] at hname
    cases rest with
    | nil => simp [startsLiteral, literalStarts, List.isPrefixOf, ne_of_isNameChar hname.2]
    | cons e rest =>
      simp [startsLiteral, literalStarts, List.isPrefixOf, ne_of_isNameChar hname.2,
        hrest.ne hends.1, hrest.ne hends.2.2.1]
  | c :: d :: e :: _, hname =>
    simp only [isName, List.all_cons, Bool.and_eq_true] at hname
    simp [startsLiteral, literalStarts, List.isPrefixOf, ne_of_isNameChar hname.2.1,
      ne_of_isNameChar hname.2.2.1]

/-- A name is read up to its end. -/
theorem readIdentifier_append {name rest : List Char} (hname : isName name = true)
    (hrest : Closes rest) : readIdentifier (name ++ rest) = some (name, rest) := by
  cases name with
  | nil => cases hname
  | cons c cs =>
    have hstart := startsLiteral_append hname hrest
    rw [isName, Bool.and_eq_true, List.all_eq_true] at hname
    have hcontinue : ∀ d ∈ cs, isIdentifierContinue d = true := fun d hd =>
      isIdentifierContinue_of_isNameChar (hname.2 d hd)
    have hword : readWord (c :: cs ++ rest) = some (c :: cs, rest) := by
      have hraw : ∀ tail, c :: cs ++ rest ≠ 'r' :: '#' :: tail := by
        intro tail heq
        cases cs with
        | nil =>
          cases heq
          exact absurd hrest (show '#' ∉ tokenEnds by decide)
        | cons d ds =>
          cases heq
          exact absurd (hname.2 '#' List.mem_cons_self) (by decide)
      rw [readWord.eq_def, hstart, if_neg Bool.false_ne_true]
      split
      · exact absurd ‹_› (hraw _)
      · rename_i heq
        cases heq
        rw [if_pos (isIdentifierStart_of_isAlpha hname.1), List.append_eq,
          List.takeWhile_append_of_pos hcontinue, List.dropWhile_append_of_pos hcontinue,
          hrest.takeWhile isIdentifierContinue_tokenEnds,
          hrest.dropWhile isIdentifierContinue_tokenEnds, List.append_nil]
      · contradiction
    have hends : tokenEnds.any isRawIdentifierChar = false := by decide +kernel
    rw [readIdentifier, hword]
    cases rest with
    | nil => rfl
    | cons d rest => simp [hrest.eq_false hends]

end Ron

end ShadingGraph
