import ShadingGraph.Proofs.OrderedMap
import ShadingGraph.Proofs.Package

/-!
# File references that a package holds

The files of a network are looked for parameter by parameter and node by node, in place and with a
count. What comes of it is the network in which every open file reference has the path of its
texture, and the count is the number of parameters that differ.

## Main definitions

- `ShaderPackage.TextureAt` — where a texture is
- `ShaderPackage.Settles` — what becomes of an authored value
- `ShaderPackage.SettlesAll` — what becomes of a network, and how many values change

## Main results

- `ShaderPackage.textureAt_iff` — looking for a texture finds where it is
- `ShaderPackage.resolveAssets_eq` — the loops rewrite all values at once
- `ShaderPackage.settlesAll_resolveAssets` — every value becomes what it should, and roots that have
  been looked at have nothing to add
-/

namespace ShadingGraph

/-- The file of a reference has not been found: there is no path, or an empty one. -/
def AssetPath.IsOpen (a : AssetPath) : Prop := a.resolved = none ∨ a.resolved = some ""

namespace ShaderPackage

variable {p p' : ShaderPackage} {isFile : String → Bool} {name path : String}

/-! ## What is asked for -/

/-- The texture of a name is at a path: the name is the absolute path of a file, or the file is
under the textures of the first root that has it. -/
def TextureAt (p : ShaderPackage) (isFile : String → Bool) (name path : String) : Prop :=
  (Path.isAbsolute name = true ∧ isFile name = true ∧ path = name) ∨
    Path.isAbsolute name = false ∧ name ≠ "" ∧ ∃ front root back, p.roots = front ++ root :: back ∧
      path = Path.join (Path.join root texturesDirectory) name ∧ isFile path = true ∧
      ∀ earlier ∈ front, isFile (Path.join (Path.join earlier texturesDirectory) name) = false

/-- A value becomes another one: an open file reference gets the path of its texture, which is not
empty, and everything else stays as it is. -/
inductive Settles (p : ShaderPackage) (isFile : String → Bool) : Value → Value → Prop where
  | found (a : AssetPath) (path : String) (hopen : a.IsOpen)
    (hpath : p.TextureAt isFile a.authored path) (hne : path ≠ "") :
    Settles p isFile (.asset a) (.asset { a with resolved := some path })
  | kept (v : Value)
    (h : ∀ a path, v = .asset a → a.IsOpen → ¬ p.TextureAt isFile a.authored path) :
    Settles p isFile v v

/-- A node becomes another one by what becomes of its parameters, where they stand. -/
structure SettlesNode (p : ShaderPackage) (isFile : String → Bool) (n n' : MaterialNode) :
    Prop where
  typeId : n'.typeId = n.typeId
  inputs : n'.inputs = n.inputs
  parameters : List.Forall₂ (fun e e' => e'.1 = e.1 ∧ p.Settles isFile e.2 e'.2)
    n.parameters.entries n'.parameters.entries

/-- How many values of a network differ from those of another one, place by place. -/
def changes (net net' : MaterialNetwork) : Nat :=
  ((valuesOf net).zip (valuesOf net')).countP fun e => e.1 ≠ e.2

/-- A network becomes another one by what becomes of its nodes, where they stand, and a number of
its values change. -/
structure SettlesAll (p : ShaderPackage) (isFile : String → Bool) (net net' : MaterialNetwork)
    (count : Nat) : Prop where
  nodes : List.Forall₂ (fun e e' => e'.1 = e.1 ∧ p.SettlesNode isFile e.2 e'.2)
    net.nodes.entries net'.nodes.entries
  terminals : net'.terminals = net.terminals
  count : count = changes net net'

/-! ## Single values -/

theorem textureAt_iff :
    p.TextureAt isFile name path ↔ p.find isFile texturesDirectory name = some path := by
  unfold TextureAt find candidates
  by_cases hempty : name = ""
  · subst hempty
    simp [Path.isAbsolute]
  · rw [if_neg (by simpa using hempty)]
    cases habsolute : Path.isAbsolute name with
    | true =>
      rw [if_pos rfl, List.find?_singleton, Option.ite_none_right_eq_some, Option.some.injEq,
        eq_comm (a := name)]
      simp
    | false =>
      rw [if_neg Bool.false_ne_true, List.find?_map, Option.map_eq_some_iff]
      simp only [List.find?_eq_some_iff_append, Function.comp_apply, Bool.not_eq_true',
        Bool.false_eq_true, false_and, false_or, true_and, and_iff_right hempty]
      constructor
      · rintro ⟨front, root, back, hroots, rfl, hfile, hfirst⟩
        exact ⟨root, ⟨hfile, front, back, hroots, hfirst⟩, rfl⟩
      · rintro ⟨root, ⟨hfile, front, back, hroots, hfirst⟩, rfl⟩
        exact ⟨front, root, back, hroots, rfl, hfile, hfirst⟩

theorem resolvedPath_eq_none_iff {a : AssetPath} : a.resolvedPath = none ↔ a.IsOpen := by
  unfold AssetPath.resolvedPath AssetPath.IsOpen
  cases a.resolved <;> simp

/-- The value that a parameter gets, and whether its file was found, as a number to count by. -/
def settle (p : ShaderPackage) (isFile : String → Bool) (v : Value) : Value × Nat :=
  match unresolved? v with
  | none => (v, 0)
  | some a =>
    match p.find isFile texturesDirectory a.authored with
    | none => (v, 0)
    | some found => (.asset { a with resolved := some found }, 1)

theorem unresolved?_eq_some_iff {v : Value} {a : AssetPath} :
    unresolved? v = some a ↔ v = .asset a ∧ a.IsOpen := by
  cases v with
  | asset b =>
    rw [unresolved?, Option.ite_none_left_eq_some, Option.some.injEq,
      Option.not_isSome_iff_eq_none, resolvedPath_eq_none_iff, Value.asset.injEq, and_comm]
    exact and_congr_right fun h => h ▸ Iff.rfl
  | _ => simp [unresolved?]

/-- A value that stays as it is, and one that is found. -/
theorem settle_cases (p : ShaderPackage) (isFile : String → Bool) (v : Value) :
    (p.settle isFile v = (v, 0) ∧ ∀ a, v = .asset a → a.IsOpen →
        p.find isFile texturesDirectory a.authored = none) ∨
      ∃ a found, v = .asset a ∧ a.IsOpen ∧ p.find isFile texturesDirectory a.authored = some found ∧
        p.settle isFile v = (.asset { a with resolved := some found }, 1) := by
  unfold settle
  cases hv : unresolved? v with
  | none =>
    refine .inl ⟨rfl, fun a ha hopen => ?_⟩
    rw [unresolved?_eq_some_iff.2 ⟨ha, hopen⟩] at hv
    cases hv
  | some a =>
    obtain ⟨rfl, hopen⟩ := unresolved?_eq_some_iff.1 hv
    dsimp only
    cases hfind : p.find isFile texturesDirectory a.authored with
    | none =>
      refine .inl ⟨rfl, fun b hb _ => ?_⟩
      cases hb
      exact hfind
    | some found => exact .inr ⟨a, found, rfl, hopen, hfind, rfl⟩

theorem settles_iff {v v' : Value} : p.Settles isFile v v' ↔ (p.settle isFile v).1 = v' := by
  rcases p.settle_cases isFile v with ⟨hsettle, hnone⟩ | ⟨a, found, rfl, hopen, hfind, hsettle⟩
  · rw [hsettle]
    constructor
    · intro h
      cases h with
      | found a path hopen hpath =>
        rw [textureAt_iff, hnone a rfl hopen] at hpath
        cases hpath
      | kept => rfl
    · rintro rfl
      refine .kept v fun a path ha hopen hpath => ?_
      rw [textureAt_iff, hnone a ha hopen] at hpath
      cases hpath
  · rw [hsettle]
    constructor
    · intro h
      cases h with
      | found _ path _ hpath =>
        rw [textureAt_iff, hfind, Option.some.injEq] at hpath
        rw [hpath]
      | kept _ h => exact absurd (textureAt_iff.2 hfind) (h a found rfl hopen)
    · rintro rfl
      exact .found a found hopen (textureAt_iff.2 hfind) (ne_empty_of_find hfind)

/-- A value is counted if it changes. -/
theorem settle_count (p : ShaderPackage) (isFile : String → Bool) (v : Value) :
    (p.settle isFile v).2 = if v ≠ (p.settle isFile v).1 then 1 else 0 := by
  rcases p.settle_cases isFile v with ⟨hsettle, -⟩ | ⟨a, found, rfl, hopen, hfind, hsettle⟩
  · simp [hsettle]
  · have hne : Value.asset a ≠ .asset { a with resolved := some found } := by
      intro heq
      have hresolved : a.resolved = some found :=
        congrArg AssetPath.resolved (Value.asset.inj heq)
      rcases hopen with hnone | hempty
      · simp [hnone] at hresolved
      · exact ne_empty_of_find hfind (Option.some.inj (hresolved.symm.trans hempty))
    rw [hsettle, if_pos hne]

/-! ## The loops -/

/-- The node with what becomes of its values, and how many files were found. -/
def settleNode (p : ShaderPackage) (isFile : String → Bool) (n : MaterialNode) :
    MaterialNode × Nat :=
  ({ n with parameters := n.parameters.mapValues fun _ v => (p.settle isFile v).1 },
    (n.parameters.values.map fun v => (p.settle isFile v).2).sum)

/-- One turn of the inner loop visits the value of a parameter. -/
theorem resolveParameter_eq (n : MaterialNode) (s : OrderedMap String Value × Nat) (name : String) :
    p.resolveParameter isFile ({ n with parameters := s.1 }, s.2) name =
      ({ n with parameters := (OrderedMap.visit (fun _ => p.settle isFile) s name).1 },
        (OrderedMap.visit (fun _ => p.settle isFile) s name).2) := by
  unfold resolveParameter OrderedMap.visit MaterialNode.parameter
  cases hfind : s.1.find? name with
  | none => rfl
  | some v =>
    rcases p.settle_cases isFile v with ⟨hsettle, hnone⟩ | ⟨a, found, rfl, hopen, hfound, hsettle⟩
    · dsimp only
      rw [Option.bind_some, hsettle, OrderedMap.modify_of_find? hfind]
      cases hv : unresolved? v with
      | none => rfl
      | some a =>
        obtain ⟨ha, hopen⟩ := unresolved?_eq_some_iff.1 hv
        dsimp only
        rw [hnone a ha hopen]
        rfl
    · have hmem : name ∈ s.1.keys := by
        by_contra hno
        rw [OrderedMap.find?_eq_none_iff.2 hno] at hfind
        cases hfind
      have hopen' : unresolved? (.asset a) = some a := unresolved?_eq_some_iff.2 ⟨rfl, hopen⟩
      dsimp only
      rw [Option.bind_some, hopen', hsettle]
      dsimp only
      rw [hfound]
      dsimp only
      rw [MaterialNode.setParameter, OrderedMap.insert_of_mem hmem]

/-- The inner loop rewrites all values of a node at once. -/
theorem foldl_resolveParameter (n : MaterialNode) (count : Nat) :
    n.parameters.keys.foldl (p.resolveParameter isFile) (n, count) =
      ((p.settleNode isFile n).1, count + (p.settleNode isFile n).2) := by
  let node (s : OrderedMap String Value × Nat) : MaterialNode × Nat :=
    ({ n with parameters := s.1 }, s.2)
  calc n.parameters.keys.foldl (p.resolveParameter isFile) (node (n.parameters, count))
      = node (n.parameters.keys.foldl (OrderedMap.visit fun _ => p.settle isFile)
          (n.parameters, count)) := List.foldl_hom node (resolveParameter_eq n)
    _ = ((p.settleNode isFile n).1, count + (p.settleNode isFile n).2) := by
      rw [OrderedMap.foldl_visit, settleNode, OrderedMap.values, List.map_map]
      rfl

/-- One turn of the outer loop visits a node. -/
theorem resolveNode_eq (net : MaterialNetwork) (s : OrderedMap String MaterialNode × Nat)
    (path : String) :
    p.resolveNode isFile ({ net with nodes := s.1 }, s.2) path =
      ({ net with nodes := (OrderedMap.visit (fun _ => p.settleNode isFile) s path).1 },
        (OrderedMap.visit (fun _ => p.settleNode isFile) s path).2) := by
  unfold resolveNode OrderedMap.visit MaterialNetwork.node?
  cases hfind : s.1.find? path with
  | none => rfl
  | some n =>
    dsimp only
    rw [foldl_resolveParameter]
    rfl

/-- The loops rewrite all values at once and add up how many files were found. -/
theorem resolveAssets_eq (p : ShaderPackage) (isFile : String → Bool) (net : MaterialNetwork) :
    p.resolveAssets isFile net =
      ({ net with nodes := net.nodes.mapValues fun _ n => (p.settleNode isFile n).1 },
        ((valuesOf net).map fun v => (p.settle isFile v).2).sum) := by
  let network (s : OrderedMap String MaterialNode × Nat) : MaterialNetwork × Nat :=
    ({ net with nodes := s.1 }, s.2)
  have hcount : (net.nodes.entries.map fun e => (p.settleNode isFile e.2).2).sum =
      ((valuesOf net).map fun v => (p.settle isFile v).2).sum := by
    simp [valuesOf, OrderedMap.values, settleNode, List.flatMap_def,
      List.map_flatten, List.sum_flatten, Function.comp_def]
  calc p.resolveAssets isFile net
      = net.paths.foldl (p.resolveNode isFile) (network (net.nodes, 0)) := rfl
    _ = network (net.paths.foldl (OrderedMap.visit fun _ => p.settleNode isFile) (net.nodes, 0)) :=
        List.foldl_hom network (resolveNode_eq net)
    _ = _ := by rw [MaterialNetwork.paths, OrderedMap.foldl_visit, hcount, Nat.zero_add]

/-- The values of the network that is left are what becomes of the values, place by place. -/
theorem valuesOf_resolveAssets (p : ShaderPackage) (isFile : String → Bool)
    (net : MaterialNetwork) :
    valuesOf (p.resolveAssets isFile net).1 =
      (valuesOf net).map fun v => (p.settle isFile v).1 := by
  rw [resolveAssets_eq]
  simp [valuesOf, OrderedMap.values, settleNode, List.flatMap_def, List.map_flatten,
    Function.comp_def]

theorem sum_settle_eq (vs : List Value) :
    (vs.map fun v => (p.settle isFile v).2).sum =
      (vs.zip (vs.map fun v => (p.settle isFile v).1)).countP fun e => e.1 ≠ e.2 := by
  induction vs with
  | nil => rfl
  | cons v vs ih =>
    rw [List.map_cons, List.map_cons, List.zip_cons_cons, List.sum_cons, List.countP_cons, ih,
      settle_count, Nat.add_comm]
    simp

/-! ## Looking again -/

theorem find_eq_none_of_roots (h : p'.roots <+: p.roots)
    (hnone : p.find isFile texturesDirectory name = none) :
    p'.find isFile texturesDirectory name = none := by
  have hsubset : p'.candidates texturesDirectory name ⊆ p.candidates texturesDirectory name := by
    unfold candidates
    split
    · exact List.Subset.refl _
    · split
      · exact List.Subset.refl _
      · exact List.map_subset _ h.subset
  rw [find, List.find?_eq_none] at hnone ⊢
  exact fun path hpath => hnone path (hsubset hpath)

/-- A value that has become what it should has nothing to gain from roots that have been looked
at. -/
theorem settle_settle (h : p'.roots <+: p.roots) (isFile : String → Bool) (v : Value) :
    p'.settle isFile (p.settle isFile v).1 = ((p.settle isFile v).1, 0) := by
  rcases p.settle_cases isFile v with ⟨hsettle, hnone⟩ | ⟨a, found, rfl, hopen, hfind, hsettle⟩
  · rw [hsettle]
    rcases p'.settle_cases isFile v with ⟨hagain, -⟩ | ⟨a, found, rfl, hopen, hfind, -⟩
    · exact hagain
    · rw [find_eq_none_of_roots h (hnone a rfl hopen)] at hfind
      cases hfind
  · rw [hsettle]
    rcases p'.settle_cases isFile (.asset { a with resolved := some found }) with
      ⟨hagain, -⟩ | ⟨b, _, hb, hopen', -⟩
    · exact hagain
    · cases hb
      rcases hopen' with hnone | hempty
      · cases hnone
      · exact absurd (Option.some.inj hempty) (ne_empty_of_find hfind)

theorem resolveAssets_resolveAssets (h : p'.roots <+: p.roots) (isFile : String → Bool)
    (net : MaterialNetwork) :
    p'.resolveAssets isFile (p.resolveAssets isFile net).1 =
      ((p.resolveAssets isFile net).1, 0) := by
  have hvalues : ∀ m : OrderedMap String Value,
      ((m.mapValues fun _ v => (p.settle isFile v).1).mapValues fun _ v =>
        (p'.settle isFile v).1) = m.mapValues fun _ v => (p.settle isFile v).1 := by
    intro m
    apply OrderedMap.ext
    simp [settle_settle h isFile]
  have hnodes : ((p.resolveAssets isFile net).1.nodes.mapValues fun _ n =>
      (p'.settleNode isFile n).1) = (p.resolveAssets isFile net).1.nodes := by
    rw [resolveAssets_eq]
    apply OrderedMap.ext
    simp [settleNode, hvalues]
  have hcount : ((valuesOf (p.resolveAssets isFile net).1).map fun v =>
      (p'.settle isFile v).2).sum = 0 := by
    rw [valuesOf_resolveAssets, List.map_map]
    simp [Function.comp_def, settle_settle h isFile]
  rw [resolveAssets_eq p', hnodes, hcount]

/-- Every open file reference whose texture is found gets its path, and nothing else changes; the
count says how many values differ. Looking again, under the same roots or the first ones of them,
changes nothing and finds nothing. -/
theorem settlesAll_resolveAssets (p : ShaderPackage) (isFile : String → Bool)
    (net : MaterialNetwork) :
    p.SettlesAll isFile net (p.resolveAssets isFile net).1 (p.resolveAssets isFile net).2 ∧
      ∀ p' : ShaderPackage, p'.roots <+: p.roots →
        p'.resolveAssets isFile (p.resolveAssets isFile net).1 =
          ((p.resolveAssets isFile net).1, 0) := by
  refine ⟨⟨?_, ?_, ?_⟩, fun p' h => resolveAssets_resolveAssets h isFile net⟩
  · rw [resolveAssets_eq, OrderedMap.entries_mapValues, List.forall₂_map_right_iff,
      List.forall₂_same]
    intro e _
    refine ⟨rfl, rfl, rfl, ?_⟩
    rw [settleNode, OrderedMap.entries_mapValues, List.forall₂_map_right_iff, List.forall₂_same]
    exact fun f _ => ⟨rfl, settles_iff.2 rfl⟩
  · rw [resolveAssets_eq]
  · rw [changes, valuesOf_resolveAssets, ← sum_settle_eq, resolveAssets_eq]

end ShaderPackage

/-- A network with file references of every kind: open with no path and with an empty one, relative
and absolute, found before, and missing. -/
def sampleTextures : MaterialNetwork :=
  MaterialNetwork.empty.addNode "/Tex" <|
    (MaterialNode.ofType "PxrTexture").setParameter "relative" (.asset ⟨"grid.png", none⟩)
    |>.setParameter "absolute" (.asset ⟨"/lib/wood.tex", some ""⟩)
    |>.setParameter "before" (.asset ⟨"grid.png", some "old.png"⟩)
    |>.setParameter "missing" (.asset ⟨"none.png", none⟩)
    |>.setParameter "label" (.string "grid.png")

theorem resolveAssets_sampleTextures :
    let p := ShaderPackage.mk ["first", "second"]
    let isFile := fun path => path == "second/textures/grid.png" || path == "/lib/wood.tex"
    (p.resolveAssets isFile sampleTextures).2 = 2 ∧
      p.SettlesAll isFile sampleTextures (p.resolveAssets isFile sampleTextures).1 2 ∧
      ["first"] <+: p.roots ∧
      (ShaderPackage.mk ["first"]).resolveAssets isFile (p.resolveAssets isFile sampleTextures).1 =
        ((p.resolveAssets isFile sampleTextures).1, 0) := by
  intro p isFile
  have hcount : (p.resolveAssets isFile sampleTextures).2 = 2 := by decide
  have hprefix : ["first"] <+: p.roots := ⟨["second"], rfl⟩
  obtain ⟨hsettles, hagain⟩ := p.settlesAll_resolveAssets isFile sampleTextures
  exact ⟨hcount, hcount ▸ hsettles, hprefix, hagain ⟨["first"]⟩ hprefix⟩

end ShadingGraph
