import Mathlib.Data.List.Basic
import ShadingGraph.Files.Path

/-!
# Pieces of paths

A path text and its pieces determine each other. What stands behind the last name of a path are
empty pieces and single dots, and its extension is what stands behind the last dot of that name; a
text in front of the path that holds no slash leaves the extension as it is.

## Main definitions

- `Path.Inert` — pieces that carry no meaning behind a name
- `Path.HasExtension` — the pieces of a path with an extension

## Main results

- `Path.splitSlash_append` — the pieces of two texts in a row
- `Path.dropInert_eq_cons_iff` — what is left of pieces, from the last to the first
- `Path.extension?_eq_some_iff` — which paths have which extension
- `Path.extension?_append`, `Path.extension?_append_plain` — a text in front of a path, and one
  behind it
-/

namespace ShadingGraph

namespace Path

/-! ## Texts and pieces -/

theorem splitSlash_ne_nil (s : List Char) : splitSlash s ≠ [] := by
  cases s with
  | nil => simp [splitSlash]
  | cons c rest =>
    unfold splitSlash
    split
    · simp
    · split <;> simp

theorem splitSlash_slash (s : List Char) : splitSlash ('/' :: s) = [] :: splitSlash s := rfl

theorem splitSlash_cons {c : Char} (hc : c ≠ '/') {s piece : List Char} {pieces : List (List Char)}
    (hs : splitSlash s = piece :: pieces) : splitSlash (c :: s) = (c :: piece) :: pieces := by
  rw [splitSlash, if_neg hc, hs]

/-- The last piece of a text and the first one of the text behind it become one. -/
theorem splitSlash_append {s s' last first : List Char} (front : List (List Char))
    {back : List (List Char)} (hs : splitSlash s = front ++ [last])
    (hs' : splitSlash s' = first :: back) :
    splitSlash (s ++ s') = front ++ (last ++ first) :: back := by
  induction s generalizing front last with
  | nil =>
    obtain ⟨rfl, rfl⟩ : front = [] ∧ last = [] := by
      simpa [splitSlash, List.singleton_eq_append_iff] using hs
    simpa using hs'
  | cons c s ih =>
    by_cases hc : c = '/'
    · subst hc
      rw [splitSlash_slash] at hs
      cases front with
      | nil => exact absurd (List.cons.inj hs).2 (splitSlash_ne_nil s)
      | cons piece front =>
        obtain ⟨rfl, hrest⟩ := List.cons.inj hs
        rw [List.cons_append, splitSlash_slash, ih front hrest, List.cons_append]
    · obtain ⟨piece, pieces, hpieces⟩ := List.exists_cons_of_ne_nil (splitSlash_ne_nil s)
      rw [splitSlash_cons hc hpieces] at hs
      cases front with
      | nil =>
        obtain ⟨rfl, rfl⟩ := List.cons.inj hs
        exact splitSlash_cons hc (ih [] hpieces)
      | cons _ front =>
        obtain ⟨rfl, rfl⟩ := List.cons.inj hs
        exact splitSlash_cons hc (ih (piece :: front) hpieces)

theorem splitSlash_of_not_mem {s : List Char} (h : '/' ∉ s) : splitSlash s = [s] := by
  induction s with
  | nil => rfl
  | cons c s ih =>
    rw [List.mem_cons, not_or] at h
    exact splitSlash_cons (Ne.symm h.1) (ih h.2)

/-- A slash between two texts separates their pieces. -/
theorem splitSlash_append_slash (s s' : List Char) :
    splitSlash (s ++ '/' :: s') = splitSlash s ++ splitSlash s' := by
  have hlast := List.dropLast_concat_getLast (splitSlash_ne_nil s)
  rw [splitSlash_append _ hlast.symm (splitSlash_slash s'), List.append_nil]
  conv_rhs => rw [← hlast]
  rw [List.append_assoc, List.singleton_append]

theorem not_mem_of_mem_splitSlash {s piece : List Char} (h : piece ∈ splitSlash s) :
    '/' ∉ piece := by
  induction s generalizing piece with
  | nil => simp_all [splitSlash]
  | cons c s ih =>
    by_cases hc : c = '/'
    · subst hc
      rw [splitSlash_slash, List.mem_cons] at h
      rcases h with rfl | h
      · simp
      · exact ih h
    · obtain ⟨first, pieces, hpieces⟩ := List.exists_cons_of_ne_nil (splitSlash_ne_nil s)
      rw [splitSlash_cons hc hpieces, List.mem_cons] at h
      rcases h with rfl | h
      · simpa [Ne.symm hc] using ih (hpieces ▸ List.mem_cons_self)
      · exact ih (hpieces ▸ List.mem_cons_of_mem first h)

theorem joinSlash_append {pieces pieces' : List (List Char)} (h : pieces ≠ []) (h' : pieces' ≠ []) :
    joinSlash (pieces ++ pieces') = joinSlash pieces ++ '/' :: joinSlash pieces' := by
  induction pieces with
  | nil => exact absurd rfl h
  | cons piece pieces ih =>
    cases pieces with
    | nil =>
      obtain ⟨first, rest, rfl⟩ := List.exists_cons_of_ne_nil h'
      rfl
    | cons second rest =>
      have hrest := ih (List.cons_ne_nil second rest)
      simp only [List.cons_append, joinSlash, List.append_assoc] at hrest ⊢
      rw [hrest]

/-- The pieces of a text make up the text. -/
theorem joinSlash_splitSlash (s : List Char) : joinSlash (splitSlash s) = s := by
  induction s with
  | nil => rfl
  | cons c s ih =>
    obtain ⟨piece, pieces, hpieces⟩ := List.exists_cons_of_ne_nil (splitSlash_ne_nil s)
    rw [hpieces] at ih
    by_cases hc : c = '/'
    · subst hc
      rw [splitSlash_slash, hpieces]
      exact congrArg ('/' :: ·) ih
    · rw [splitSlash_cons hc hpieces, ← ih]
      cases pieces <;> rfl

/-- Pieces without slashes are the pieces of the text that they make up. -/
theorem splitSlash_joinSlash {pieces : List (List Char)} (hne : pieces ≠ [])
    (h : ∀ piece ∈ pieces, '/' ∉ piece) : splitSlash (joinSlash pieces) = pieces := by
  induction pieces with
  | nil => exact absurd rfl hne
  | cons piece pieces ih =>
    rw [List.forall_mem_cons] at h
    have hpiece := splitSlash_of_not_mem h.1
    cases pieces with
    | nil => exact hpiece
    | cons second rest =>
      have hjoin : joinSlash (piece :: second :: rest) =
          piece ++ '/' :: joinSlash (second :: rest) := rfl
      rw [hjoin, splitSlash_append_slash, hpiece, ih (List.cons_ne_nil second rest) h.2]
      rfl

/-! ## Pieces behind the last name -/

/-- Behind a name, pieces that are empty or a single dot stay at the place. -/
def Inert (pieces : List (List Char)) : Prop := ∀ piece ∈ pieces, piece = [] ∨ piece = ['.']

theorem inert_of_dropInert {pieces : List (List Char)} (h : dropInert pieces = []) :
    Inert pieces := by
  induction pieces with
  | nil => simp [Inert]
  | cons piece before ih =>
    rw [dropInert] at h
    split at h
    case isTrue hpiece =>
      rw [Inert, List.forall_mem_cons]
      exact ⟨hpiece.imp_right And.left, ih h⟩
    case isFalse => cases h

/-- What is left of pieces, from the last to the first, begins with the last one that is no inert
piece; a single dot counts where nothing stands before it. -/
theorem dropInert_eq_cons_iff {pieces before : List (List Char)} {name : List Char} :
    dropInert pieces = name :: before ↔
      ∃ tail, pieces = tail ++ name :: before ∧ Inert tail ∧ name ≠ [] ∧
        (name = ['.'] → before = []) := by
  induction pieces with
  | nil => simp [dropInert]
  | cons piece pieces ih =>
    rw [dropInert]
    split
    case isTrue hpiece =>
      rw [ih]
      constructor
      · rintro ⟨tail, rfl, htail, hname⟩
        refine ⟨piece :: tail, rfl, ?_, hname⟩
        exact List.forall_mem_cons.2 ⟨hpiece.imp_right And.left, htail⟩
      · rintro ⟨tail, heq, htail, hname, hdot⟩
        cases tail with
        | nil =>
          obtain ⟨rfl, rfl⟩ := List.cons.inj heq
          rcases hpiece with hempty | ⟨hpiece, hbefore⟩
          · exact absurd hempty hname
          · exact absurd (hdot hpiece) hbefore
        | cons _ tail =>
          exact ⟨tail, (List.cons.inj heq).2, (List.forall_mem_cons.1 htail).2, hname, hdot⟩
    case isFalse hpiece =>
      rw [not_or, not_and, not_not] at hpiece
      constructor
      · rintro h
        obtain ⟨rfl, rfl⟩ := List.cons.inj h
        exact ⟨[], rfl, by simp [Inert], hpiece⟩
      · rintro ⟨tail, heq, htail, -, -⟩
        cases tail with
        | nil => exact heq
        | cons _ tail =>
          obtain ⟨rfl, rfl⟩ := List.cons.inj heq
          -- A piece that is kept is no dot in front of the others.
          rcases (List.forall_mem_cons.1 htail).1 with hempty | hdot
          · exact absurd hempty hpiece.1
          · simp at hpiece
            exact absurd hdot hpiece.2

theorem backward_eq_cons_iff {path : String} {before : List (List Char)} {name : List Char} :
    backward path = name :: before ↔
      ∃ tail, splitSlash path.toList = before.reverse ++ name :: tail ∧ Inert tail ∧ name ≠ [] ∧
        (name = ['.'] → before = []) := by
  rw [backward, dropInert_eq_cons_iff]
  constructor
  · rintro ⟨tail, heq, htail, hname⟩
    refine ⟨tail.reverse, ?_, fun piece hpiece => htail piece (List.mem_reverse.1 hpiece), hname⟩
    rw [List.reverse_eq_iff.1 heq]
    simp
  · rintro ⟨tail, heq, htail, hname⟩
    refine ⟨tail.reverse, ?_, fun piece hpiece => htail piece (List.mem_reverse.1 hpiece), hname⟩
    rw [heq]
    simp

/-- A path has a file name if a piece that is no dots is its last one but for inert pieces. -/
theorem fileName?_eq_some_iff {path : String} {name : List Char} :
    fileName? path = some name ↔
      ∃ front tail, splitSlash path.toList = front ++ name :: tail ∧ Inert tail ∧ name ≠ [] ∧
        name ≠ ['.'] ∧ name ≠ ['.', '.'] := by
  unfold fileName?
  constructor
  · intro h
    cases hbackward : backward path with
    | nil =>
      rw [hbackward] at h
      cases h
    | cons piece before =>
      rw [hbackward] at h
      obtain ⟨hdots, hpiece⟩ := Option.ite_none_left_eq_some.1 h
      cases hpiece
      obtain ⟨tail, hsplit, htail, hne, -⟩ := backward_eq_cons_iff.1 hbackward
      rw [not_or] at hdots
      exact ⟨before.reverse, tail, hsplit, htail, hne, hdots⟩
  · rintro ⟨front, tail, hsplit, htail, hne, hdot, hdots⟩
    have hbackward : backward path = name :: front.reverse :=
      backward_eq_cons_iff.2 ⟨tail, by rw [hsplit, List.reverse_reverse], htail, hne,
        fun h => absurd h hdot⟩
    rw [hbackward]
    exact if_neg (not_or.2 ⟨hdot, hdots⟩)

/-! ## Parents -/

theorem isAbsolute_append {front : String} (h : front ≠ "") (back : String) :
    isAbsolute (front ++ back) = isAbsolute front := by
  obtain ⟨c, rest, hfront⟩ := List.exists_cons_of_ne_nil (mt String.toList_eq_nil_iff.1 h)
  simp [isAbsolute, hfront]

/-- The pieces of the parent are those before the last name, without the inert ones at their end.
Where only inert ones are left, the parent is the root or the empty path. -/
theorem parent?_of_backward {path : String} {before : List (List Char)} {name : List Char}
    (h : backward path = name :: before) :
    Inert before ∧ parent? path = some (if isAbsolute path then "/" else "") ∨
      ∃ tail directories parent, before = tail ++ directories ∧ Inert tail ∧
        parent? path = some parent ∧ splitSlash parent.toList = directories.reverse ∧
        isAbsolute parent = isAbsolute path := by
  cases hbefore : dropInert before with
  | nil => exact .inl ⟨inert_of_dropInert hbefore, by simp [parent?, h, hbefore]⟩
  | cons last front =>
    have hparent : parent? path = some (String.ofList (joinSlash (last :: front).reverse)) := by
      simp only [parent?, h, hbefore]
    obtain ⟨tail, rfl, htail, hlast, -⟩ := dropInert_eq_cons_iff.1 hbefore
    obtain ⟨rest, hsplit, -⟩ := backward_eq_cons_iff.1 h
    rw [List.reverse_append, List.append_assoc] at hsplit
    have hne : (last :: front).reverse ≠ [] := by simp
    have hpieces : splitSlash (joinSlash (last :: front).reverse) = (last :: front).reverse := by
      apply splitSlash_joinSlash hne
      intro piece hpiece
      apply not_mem_of_mem_splitSlash (s := path.toList)
      rw [hsplit]
      exact List.mem_append_left _ hpiece
    have hparentNe : String.ofList (joinSlash (last :: front).reverse) ≠ "" := by
      intro hempty
      rw [String.ofList_eq_empty_iff.1 hempty] at hpieces
      have hroot : last :: front = [[]] := (List.reverse_eq_iff.1 hpieces.symm).trans rfl
      exact hlast (List.cons.inj hroot).1
    refine .inr ⟨tail, last :: front, _, rfl, htail, hparent, ?_, ?_⟩
    · rw [String.toList_ofList, hpieces]
    · have hpath : path = String.ofList (joinSlash (last :: front).reverse) ++
          String.ofList ('/' :: joinSlash (tail.reverse ++ name :: rest)) := by
        rw [← String.ofList_append, ← joinSlash_append hne (by simp), ← hsplit,
          joinSlash_splitSlash, String.ofList_toList]
      conv_rhs => rw [hpath]
      exact (isAbsolute_append hparentNe _).symm

/-! ## Extensions -/

theorem splitLastDot_eq_none_iff {name : List Char} : splitLastDot name = none ↔ '.' ∉ name := by
  induction name with
  | nil => simp [splitLastDot]
  | cons c name ih =>
    rw [splitLastDot]
    cases hname : splitLastDot name with
    | none =>
      have hrest := ih.1 hname
      by_cases hc : c = '.'
      · simp [hc]
      · simp [hc, Ne.symm hc, hrest]
    | some halves =>
      have hmem : '.' ∈ name := by
        by_contra hnot
        rw [ih.2 hnot] at hname
        cases hname
      simp [hmem]

/-- The last dot of a name is the one that no dot follows. -/
theorem splitLastDot_eq_some_iff {name front back : List Char} :
    splitLastDot name = some (front, back) ↔ name = front ++ '.' :: back ∧ '.' ∉ back := by
  induction name generalizing front back with
  | nil => simp [splitLastDot]
  | cons c name ih =>
    rw [splitLastDot]
    cases hname : splitLastDot name with
    | none =>
      have hnot := splitLastDot_eq_none_iff.1 hname
      constructor
      · intro h
        obtain ⟨rfl, hhalves⟩ := Option.ite_none_right_eq_some.1 h
        cases hhalves
        exact ⟨rfl, hnot⟩
      · rintro ⟨heq, -⟩
        cases front with
        | nil =>
          obtain ⟨rfl, rfl⟩ := List.cons.inj heq
          rfl
        | cons d front =>
          obtain ⟨-, rfl⟩ := List.cons.inj heq
          simp at hnot
    | some halves =>
      obtain ⟨hsplit, hsecond⟩ := ih.1 hname
      constructor
      · rintro ⟨⟩
        exact ⟨congrArg (c :: ·) hsplit, hsecond⟩
      · rintro ⟨heq, hback⟩
        cases front with
        | nil =>
          -- The dot in front is not the last one.
          obtain ⟨-, rfl⟩ := List.cons.inj heq
          rw [hsplit] at hback
          simp at hback
        | cons d front =>
          obtain ⟨rfl, hrest⟩ := List.cons.inj heq
          have hhalves := hname.symm.trans (ih.2 ⟨hrest, hback⟩)
          rw [Option.some.inj hhalves]

/-- A path has an extension: behind the last dot of its last name, and that dot does not begin the
name. -/
def HasExtension (path : String) (extension : List Char) : Prop :=
  ∃ front stem tail, splitSlash path.toList = front ++ (stem ++ '.' :: extension) :: tail ∧
    Inert tail ∧ stem ≠ [] ∧ '.' ∉ extension ∧ ¬ (stem = ['.'] ∧ extension = [])

theorem extension?_eq_some_iff {path extension : String} :
    extension? path = some extension ↔ HasExtension path extension.toList := by
  unfold extension?
  rw [Option.bind_eq_some_iff]
  constructor
  · rintro ⟨name, hname, hextension⟩
    obtain ⟨front, tail, hsplit, htail, hne, hdot, hdots⟩ := fileName?_eq_some_iff.1 hname
    split at hextension
    case h_1 c stem back hhalves =>
      cases hextension
      obtain ⟨rfl, hback⟩ := splitLastDot_eq_some_iff.1 hhalves
      rw [HasExtension, String.toList_ofList]
      refine ⟨front, c :: stem, tail, hsplit, htail, List.cons_ne_nil c stem, hback, ?_⟩
      rintro ⟨hstem, rfl⟩
      exact hdots (by rw [hstem]; rfl)
    case h_2 => cases hextension
  · rintro ⟨front, stem, tail, hsplit, htail, hstem, hextension, hdots⟩
    obtain ⟨c, stem, rfl⟩ := List.exists_cons_of_ne_nil hstem
    refine ⟨_, fileName?_eq_some_iff.2 ⟨front, tail, hsplit, htail, ?_, ?_, ?_⟩, ?_⟩
    · simp
    · simp
    · intro h
      obtain ⟨rfl, hrest⟩ := List.cons.inj h
      have hends : stem = [] ∧ extension.toList = [] := by
        simpa [List.append_eq_singleton_iff] using hrest
      exact hdots ⟨congrArg _ hends.1, hends.2⟩
    · rw [splitLastDot_eq_some_iff.2 ⟨rfl, hextension⟩]
      exact congrArg some (String.ofList_toList)

/-- A text without a slash in front of a path lengthens its first name, and begins no extension. -/
theorem extension?_append {front path extension : String} (h : '/' ∉ front.toList)
    (hextension : extension? path = some extension) :
    extension? (front ++ path) = some extension := by
  rw [extension?_eq_some_iff] at hextension ⊢
  obtain ⟨directories, stem, tail, hsplit, htail, hstem, hdot, hdots⟩ := hextension
  have hfront := splitSlash_of_not_mem h
  rw [HasExtension, String.toList_append]
  cases directories with
  | nil =>
    have hpieces := splitSlash_append [] hfront hsplit
    refine ⟨[], front.toList ++ stem, tail, ?_, htail, ?_, hdot, ?_⟩
    · rw [hpieces, List.append_assoc]
    · exact List.append_ne_nil_of_right_ne_nil _ hstem
    · rintro ⟨heq, hempty⟩
      rcases List.append_eq_singleton_iff.1 heq with ⟨-, hdotted⟩ | ⟨-, hnone⟩
      · exact hdots ⟨hdotted, hempty⟩
      · exact hstem hnone
  | cons first directories =>
    have hpieces := splitSlash_append [] hfront hsplit
    exact ⟨(front.toList ++ first) :: directories, stem, tail, hpieces, htail, hstem, hdot, hdots⟩

/-- A text without slashes and dots behind a path is the end of its extension, if it has one. -/
theorem extension?_append_plain {path back extension : String} (hne : back ≠ "")
    (hslash : '/' ∉ back.toList) (hdot : '.' ∉ back.toList)
    (h : extension? (path ++ back) = some extension) : back.toList <:+ extension.toList := by
  obtain ⟨front, stem, tail, hsplit, htail, -, -, -⟩ := extension?_eq_some_iff.1 h
  have hlast := List.dropLast_concat_getLast (splitSlash_ne_nil path.toList)
  have hpieces := splitSlash_append _ hlast.symm (splitSlash_of_not_mem hslash)
  rw [String.toList_append, hpieces] at hsplit
  rcases List.eq_nil_or_concat' tail with rfl | ⟨tail, last, rfl⟩
  · obtain ⟨-, hname⟩ := List.append_inj' hsplit rfl
    rcases List.append_eq_append_iff.1 (List.cons.inj hname).1 with
      ⟨middle, -, hback⟩ | ⟨middle, -, hextension⟩
    · -- The dot would stand inside the text behind the path.
      rw [hback] at hdot
      simp at hdot
    · cases middle with
      | nil =>
        rw [List.nil_append] at hextension
        rw [← hextension] at hdot
        simp at hdot
      | cons c middle => exact ⟨middle, (List.cons.inj hextension).2.symm⟩
  · -- The last piece ends in the text, so that it is not inert.
    rw [← List.cons_append, ← List.append_assoc] at hsplit
    obtain ⟨-, hname⟩ := List.append_inj' hsplit rfl
    have hback : back.toList <:+ last := ⟨_, (List.cons.inj hname).1⟩
    rcases htail last (by simp) with rfl | rfl
    · exact absurd (List.suffix_nil.1 hback) (by simpa using hne)
    · rcases List.suffix_cons_iff.1 hback with heq | hnil
      · rw [heq] at hdot
        simp at hdot
      · exact absurd (List.suffix_nil.1 hnil) (by simpa using hne)

end Path

end ShadingGraph
