import Mathlib.Data.List.Forall2
import ShadingGraph.Proofs.Ron.NumberLiteral

/-!
# Layouts of documents

An author lays a document out at will: blanks and comments may stand between any two tokens, a comma
may stand behind the last item of a container, and the name of a struct may be left out. A relation
between values and texts says how a value can be written; from such relations for the parts, those
for containers and structs are made.

## Main definitions

- `Ron.IsGap` — blanks and comments
- `Ron.Layout` — the texts that a value may be written as
- `Ron.Separated`, `Ron.Enclosed` — items with commas between them, and marks around them
- `Ron.Labelled`, `Ron.StructLayout` — fields with their names, and structs of them

## Main results

- `Ron.IsGap.skipGap` — a gap is skipped, whatever stands behind it
- `Ron.enclosed_writeEnclosed` — items on lines are one of the layouts
-/

namespace ShadingGraph

namespace Ron

/-! ## Gaps -/

/-- A comment between marks, behind its opening mark: further comments inside it are complete, and
it ends with a closing mark of its own. -/
inductive BlockComment : List Char → Prop where
  | close : BlockComment ['*', '/']
  | nested (inner rest : List Char) (hinner : BlockComment inner) (hrest : BlockComment rest) :
    BlockComment ('/' :: '*' :: (inner ++ rest))
  | other (c d : Char) (rest : List Char) (hopen : ¬ (c = '/' ∧ d = '*'))
    (hclose : ¬ (c = '*' ∧ d = '/')) (hrest : BlockComment (d :: rest)) :
    BlockComment (c :: d :: rest)

/-- Blanks, comments that end with their lines, and comments between marks. -/
inductive IsGap : List Char → Prop where
  | nil : IsGap []
  | blank (c : Char) (g : List Char) (hc : isPatternBlank c = true) (hg : IsGap g) : IsGap (c :: g)
  | lineComment (comment g : List Char) (hcomment : '\n' ∉ comment) (hg : IsGap g) :
    IsGap ('/' :: '/' :: (comment ++ '\n' :: g))
  | blockComment (comment g : List Char) (hcomment : BlockComment comment) (hg : IsGap g) :
    IsGap ('/' :: '*' :: (comment ++ g))

theorem skipGapFrom_line {comment : List Char} (h : '\n' ∉ comment) (s : List Char) :
    skipGapFrom .line (comment ++ '\n' :: s) = skipGapFrom .blank s := by
  induction comment with
  | nil => simp [skipGapFrom]
  | cons c comment ih =>
    rw [List.mem_cons, not_or] at h
    simp [skipGapFrom, Ne.symm h.1, ih h.2]

/-- What stands around a comment between marks: further such comments, as many as the number says,
or blanks. -/
def Gap.around : Nat → Gap
  | 0 => .blank
  | depth + 1 => .block depth

theorem skipGapFrom_block_cons {c d : Char} (hopen : ¬ (c = '/' ∧ d = '*'))
    (hclose : ¬ (c = '*' ∧ d = '/')) (depth : Nat) (s : List Char) :
    skipGapFrom (.block depth) (c :: d :: s) = skipGapFrom (.block depth) (d :: s) := by
  cases depth <;>
  · rw [skipGapFrom.eq_def]
    split <;> simp_all

/-- Behind a comment, what is around it goes on. -/
theorem BlockComment.skipGapFrom {comment : List Char} (h : BlockComment comment) (depth : Nat)
    (s : List Char) :
    skipGapFrom (.block depth) (comment ++ s) = skipGapFrom (.around depth) s := by
  induction h generalizing depth s with
  | close => cases depth <;> rfl
  | nested inner rest _ _ ihinner ihrest =>
    rw [List.cons_append, List.cons_append, List.append_assoc, Ron.skipGapFrom, ihinner, Gap.around,
      ihrest]
  | other c d rest hopen hclose _ ih =>
    rw [List.cons_append, List.cons_append, skipGapFrom_block_cons hopen hclose]
    exact ih depth s

theorem IsGap.skipGap {g : List Char} (h : IsGap g) (s : List Char) :
    skipGap (g ++ s) = skipGap s := by
  induction h with
  | nil => rfl
  | blank c g hc _ ih => rw [List.cons_append, skipGap_cons_blank hc, ih]
  | lineComment comment g hcomment _ ih =>
    rw [Ron.skipGap, List.cons_append, List.cons_append, List.append_assoc, skipGapFrom,
      List.cons_append, skipGapFrom_line hcomment]
    exact ih
  | blockComment comment g hcomment _ ih =>
    rw [Ron.skipGap, List.cons_append, List.cons_append, List.append_assoc, skipGapFrom,
      hcomment.skipGapFrom]
    exact ih

theorem mem_blanks_of_isPatternBlank {c : Char} (h : isPatternBlank c = true) : c ∈ blanks := by
  have hcodes : blanks.map Char.toNat = [9, 10, 11, 12, 13, 32, 133, 8206, 8207, 8232, 8233] := rfl
  have hranges : 9 ≤ c.toNat ∧ (c.toNat < 14 ∨ 32 ≤ c.toNat ∧ (c.toNat < 33 ∨ 133 ≤ c.toNat ∧
      (c.toNat < 134 ∨ 8206 ≤ c.toNat ∧ (c.toNat < 8208 ∨ 8232 ≤ c.toNat ∧ c.toNat < 8234)))) := by
    simpa [isPatternBlank, CodePointSet.contains, CodePointSet.patternWhiteSpace,
      CodePointSet.follow] using h
  have hcode : c.toNat ∈ blanks.map Char.toNat := by
    simp only [hcodes, List.mem_cons, List.not_mem_nil, or_false]
    omega
  obtain ⟨d, hd, hcd⟩ := List.mem_map.1 hcode
  rwa [← Char.toNat_inj.1 hcd]

/-- A gap may stand behind a value. -/
theorem IsGap.closes {g s : List Char} (h : IsGap g) (hs : Closes s) : Closes (g ++ s) := by
  cases h with
  | nil => exact hs
  | blank c g hc _ =>
    exact List.mem_cons_of_mem _ (List.mem_append_left marks (mem_blanks_of_isPatternBlank hc))
  | lineComment => exact List.mem_cons_self
  | blockComment => exact List.mem_cons_self

theorem isGap_newLine (depth : Nat) : IsGap (newLine depth) := by
  have hspaces : ∀ n, IsGap (List.replicate n ' ') := by
    intro n
    induction n with
    | zero => exact .nil
    | succ n ih => exact .blank ' ' _ (by decide) ih
  exact .blank '\n' _ (by decide) (hspaces _)

theorem isGap_space : IsGap [' '] := .blank ' ' [] (by decide) .nil

/-- Behind a gap, a comma is looked for as if the gap were not there. -/
theorem readComma_of_gap {g : List Char} (hg : IsGap g) (s : List Char) :
    readComma (g ++ s) = readComma s := by
  rw [readComma, readComma, hg.skipGap]

/-! ## Values -/

/-- The texts that a value may be written as. -/
abbrev Layout (α : Type) := α → List Char → Prop

variable {α β : Type}

/-- Decimal digits, with any number of zeros in front. -/
def NaturalLayout : Layout Nat := fun n text =>
  text ≠ [] ∧ (∀ c ∈ text, c.isDigit = true) ∧ Nat.ofDigitChars 10 text 0 = n

/-- A string between quotes. -/
def StringLayout : Layout String := fun s text =>
  ∃ inside, Spells s.toList inside ∧ text = '"' :: (inside ++ ['"'])

/-- Items with commas between them and gaps around them. A comma may stand behind the last item. -/
inductive Separated (item : Layout α) : Layout (List α) where
  | nil (g : List Char) (hg : IsGap g) : Separated item [] g
  | last (a : α) (g text g' : List Char) (hg : IsGap g) (ha : item a text) (hg' : IsGap g') :
    Separated item [a] (g ++ (text ++ g'))
  | cons (a : α) (as : List α) (g text g' rest : List Char) (hg : IsGap g) (ha : item a text)
    (hg' : IsGap g') (hrest : Separated item as rest) :
    Separated item (a :: as) (g ++ (text ++ (g' ++ ',' :: rest)))

/-- Items between two marks. -/
def Enclosed (first last : Char) (item : Layout α) : Layout (List α) := fun as text =>
  ∃ inside, Separated item as inside ∧ text = first :: (inside ++ [last])

/-- A name and a value, with a colon between them. -/
def Labelled (name : α → String) (value : Layout α) : Layout α := fun a text =>
  ∃ g g' valueText, IsGap g ∧ IsGap g' ∧ value a valueText ∧
    text = (name a).toList ++ (g ++ ':' :: (g' ++ valueText))

/-- Fields between parentheses, with or without the name of the struct in front of them. -/
def StructLayout (name : String) (field : Layout α) : Layout (List α) := fun as text =>
  ∃ body, Enclosed '(' ')' field as body ∧
    (text = body ∨ ∃ g, IsGap g ∧ text = name.toList ++ (g ++ body))

/-- A value with gaps around it. -/
def DocumentLayout (value : Layout α) : Layout α := fun a text =>
  ∃ g g' valueText, IsGap g ∧ IsGap g' ∧ value a valueText ∧ text = g ++ (valueText ++ g')

theorem Separated.map {item : Layout α} {item' : Layout β} {f : α → β}
    (hitem : ∀ a text, item a text → item' (f a) text) {as : List α} {inside : List Char}
    (h : Separated item as inside) : Separated item' (as.map f) inside := by
  induction h with
  | nil g hg => exact .nil g hg
  | last a g text g' hg ha hg' => exact .last (f a) g text g' hg (hitem a text ha) hg'
  | cons a as g text g' rest hg ha hg' _ ih =>
    exact .cons (f a) _ g text g' rest hg (hitem a text ha) hg' ih

theorem Enclosed.map {first last : Char} {item : Layout α} {item' : Layout β} {f : α → β}
    (hitem : ∀ a text, item a text → item' (f a) text) {as : List α} {text : List Char}
    (h : Enclosed first last item as text) : Enclosed first last item' (as.map f) text := by
  obtain ⟨inside, hinside, rfl⟩ := h
  exact ⟨inside, hinside.map hitem, rfl⟩

theorem Separated.imp {item item' : Layout α} (hitem : ∀ a text, item a text → item' a text)
    {as : List α} {inside : List Char} (h : Separated item as inside) :
    Separated item' as inside := by
  have hmap : Separated item' (as.map id) inside := h.map hitem
  rwa [List.map_id] at hmap

theorem StructLayout.map {name : String} {field : Layout α} {field' : Layout β} {f : α → β}
    (hfield : ∀ a text, field a text → field' (f a) text) {as : List α} {text : List Char}
    (h : StructLayout name field as text) : StructLayout name field' (as.map f) text := by
  obtain ⟨body, hbody, hhead⟩ := h
  exact ⟨body, hbody.map hfield, hhead⟩

/-- There is a comma for every item but the last. -/
theorem Separated.length_le {item : Layout α} {as : List α} {inside : List Char}
    (h : Separated item as inside) : as.length ≤ inside.length + 1 := by
  induction h with
  | nil => exact Nat.zero_le _
  | last => exact Nat.le_add_left _ _
  | cons a as g text g' rest _ _ _ _ ih =>
    simp only [List.length_append, List.length_cons]
    omega

/-! ## What is written -/

theorem naturalLayout_writeInteger (n depth : Nat) : NaturalLayout n (writeInteger depth n) := by
  have htext : writeInteger depth n = digitsOf n := by
    have hsign : ¬ (n : Int) < 0 := by omega
    simp [writeInteger, integerText_eq, signText, hsign]
  rw [htext]
  exact ⟨digitsOf_ne_nil n, fun _ => isDigit_of_mem_digitsOf, ofDigitChars_digitsOf n⟩

theorem stringLayout_writeString (s : String) (depth : Nat) :
    StringLayout s (writeString depth s) :=
  ⟨_, spells_flatMap s.toList, by simp [writeString, quote]⟩

/-- Items on their lines are one of the layouts. -/
theorem separated_lines {item : Layout α} {write : Writer β} {depth : Nat} {bs : List β}
    {as : List α} (h : List.Forall₂ (fun b a => item a (write (depth + 1) b)) bs as) :
    Separated item as (bs.flatMap (writeItem write depth) ++ newLine depth) := by
  induction h with
  | nil => exact .nil _ (isGap_newLine depth)
  | @cons b a bs as hitem _ ih =>
    have hline : (b :: bs).flatMap (writeItem write depth) ++ newLine depth =
        newLine (depth + 1) ++ (write (depth + 1) b ++
          ([] ++ ',' :: (bs.flatMap (writeItem write depth) ++ newLine depth))) := by
      simp [writeItem]
    rw [hline]
    exact .cons a as _ _ _ _ (isGap_newLine (depth + 1)) hitem .nil ih

/-- A container as it is written. -/
theorem enclosed_writeEnclosed {first last : Char} {item : Layout α} {write : Writer β}
    {depth : Nat} {bs : List β} {as : List α}
    (h : List.Forall₂ (fun b a => item a (write (depth + 1) b)) bs as) :
    Enclosed first last item as (writeEnclosed first last write depth bs) := by
  cases h with
  | nil => exact ⟨[], .nil [] .nil, rfl⟩
  | cons hitem htail =>
    refine ⟨_, separated_lines (.cons hitem htail), ?_⟩
    simp [writeEnclosed]

/-- A field as it is written: its name and its value. -/
def writeField : Writer (String × (Nat → List Char)) := fun depth f =>
  f.1.toList ++ ':' :: ' ' :: f.2 depth

theorem writeStruct_eq (name : String) (depth : Nat) (fields : List (String × (Nat → List Char))) :
    writeStruct name depth fields =
      name.toList ++ writeEnclosed '(' ')' writeField depth fields := rfl

theorem labelled_writeField {name : α → String} {value : Layout α} {write : Nat → List Char}
    {depth : Nat} {a : α} (h : value a (write depth)) :
    Labelled name value a (writeField depth (name a, write)) :=
  ⟨[], [' '], write depth, .nil, isGap_space, h, rfl⟩

theorem structLayout_writeStruct {name : String} {field : Layout α} {depth : Nat}
    {written : List (String × (Nat → List Char))} {as : List α}
    (h : List.Forall₂ (fun f a => field a (writeField (depth + 1) f)) written as) :
    StructLayout name field as (writeStruct name depth written) :=
  ⟨_, enclosed_writeEnclosed h, .inr ⟨[], .nil, writeStruct_eq name depth written⟩⟩

end Ron

end ShadingGraph
