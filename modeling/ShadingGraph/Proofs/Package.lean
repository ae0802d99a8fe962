import Mathlib.Data.List.Forall2
import ShadingGraph.Package

/-!
# Implementations that a package holds

A package points each shader of a registry at the file that it finds for it and leaves the others as
they are. It stops at once where it has no roots, although an absolute path needs none: such a path
is passed over there, and found as soon as there is any root at all.

## Main definitions

- `ShaderPackage.Points` — every shader has what was found for it, and is otherwise as it was
- `ShaderPackage.HoldsNone` — a root has no file for any shader of a registry
- `ShaderPackage.PassesOver` — a shader at an absolute path is not pointed at its file

## Main results

- `ShaderPackage.points_iff` — what a registry becomes if every shader is looked for
- `ShaderPackage.resolveImplementations_eq_iff` — when stopping at once makes no difference
- `ShaderPackage.points_resolveImplementations_iff` — the same by what the registry becomes, and by
  what a further root changes
-/

namespace ShadingGraph

theorem Path.join_ne_empty (base : String) {path : String} (h : path ≠ "") :
    Path.join base path ≠ "" := by
  unfold Path.join
  split
  · exact h
  · split
    · exact fun hempty => h (String.append_eq_empty_iff.1 hempty).2
    · exact fun hempty => h (String.append_eq_empty_iff.1 hempty).2

namespace ShaderRegistry

variable {f g : ShaderDescriptor → ShaderDescriptor} {r : ShaderRegistry}

theorem mapDescriptors_eq_iff :
    r.mapDescriptors f = r.mapDescriptors g ↔ ∀ d ∈ r.descriptors, f d = g d := by
  have hentries : r.mapDescriptors f = r.mapDescriptors g ↔
      r.shaders.mapValues (fun _ ds => ds.map f) = r.shaders.mapValues fun _ ds => ds.map g :=
    ⟨congrArg shaders, congrArg mk⟩
  rw [hentries, OrderedMap.ext_iff, OrderedMap.entries_mapValues, OrderedMap.entries_mapValues,
    List.map_inj_left]
  simp only [Prod.mk.injEq, true_and, List.map_inj_left, descriptors, OrderedMap.values,
    List.mem_flatten, List.mem_map]
  constructor
  · rintro h d ⟨_, ⟨e, he, rfl⟩, hd⟩
    exact h e he d hd
  · intro h e he d hd
    exact h d ⟨_, ⟨e, he, rfl⟩, hd⟩

theorem mapDescriptors_id : r.mapDescriptors id = r := by
  refine congrArg mk (OrderedMap.ext ?_)
  rw [OrderedMap.entries_mapValues]
  simp only [List.map_id]
  exact List.map_id _

theorem mapDescriptors_eq_self_iff : r.mapDescriptors f = r ↔ ∀ d ∈ r.descriptors, f d = d := by
  have h : r.mapDescriptors f = r.mapDescriptors id ↔ _ := mapDescriptors_eq_iff
  rwa [mapDescriptors_id] at h

end ShaderRegistry

namespace ShaderPackage

variable {p : ShaderPackage} {isFile : String → Bool} {r r' : ShaderRegistry}
  {d d' : ShaderDescriptor} {root : String}

/-! ## What is asked for -/

/-- A shader has the path of the file that is found for its implementation; where it declares none,
or none is found, it keeps the path that it had. Nothing else changes. -/
def PointsAt (p : ShaderPackage) (isFile : String → Bool) (d d' : ShaderDescriptor) : Prop :=
  (∃ found, d.implementationUri ≠ "" ∧
      p.find isFile shadersDirectory d.implementationUri = some found ∧
      d' = { d with resolvedUri := found }) ∨
    (d.implementationUri = "" ∨ p.find isFile shadersDirectory d.implementationUri = none) ∧ d' = d

/-- One registry comes from another one by pointing every shader, where it stands, at its file. -/
def Points (p : ShaderPackage) (isFile : String → Bool) (r r' : ShaderRegistry) : Prop :=
  List.Forall₂ (fun e e' => e.1 = e'.1 ∧ List.Forall₂ (p.PointsAt isFile) e.2 e'.2)
    r.shaders.entries r'.shaders.entries

/-- A root has no file for any shader that is looked for under roots. -/
def HoldsNone (root : String) (isFile : String → Bool) (r : ShaderRegistry) : Prop :=
  ∀ d ∈ r.descriptors, d.implementationUri ≠ "" → Path.isAbsolute d.implementationUri = false →
    isFile (Path.join (Path.join root shadersDirectory) d.implementationUri) = false

/-- A package has no roots, and a shader that declares the absolute path of a file does not yet have
that path. -/
def PassesOver (p : ShaderPackage) (isFile : String → Bool) (r : ShaderRegistry) : Prop :=
  p.roots = [] ∧ ∃ d ∈ r.descriptors, Path.isAbsolute d.implementationUri = true ∧
    isFile d.implementationUri = true ∧ d.resolvedUri ≠ d.implementationUri

/-! ## What is found -/

@[simp]
theorem find_empty {directory : String} : p.find isFile directory "" = none :=
  rfl

/-- The empty path is nowhere, so what is found has a path. -/
theorem ne_empty_of_find {directory name found : String}
    (h : p.find isFile directory name = some found) : found ≠ "" := by
  have hmem : found ∈ p.candidates directory name := List.mem_of_find?_eq_some h
  unfold candidates at hmem
  by_cases hname : name = ""
  · rw [hname] at hmem
    cases hmem
  · rw [if_neg (by simpa using hname)] at hmem
    split at hmem
    · rw [List.mem_singleton.1 hmem]
      exact hname
    · obtain ⟨root, -, rfl⟩ := List.mem_map.1 hmem
      exact Path.join_ne_empty _ hname

theorem pointsAt_iff : p.PointsAt isFile d d' ↔ p.resolveDescriptor isFile d = d' := by
  unfold PointsAt resolveDescriptor
  cases hfind : p.find isFile shadersDirectory d.implementationUri with
  | none =>
    constructor
    · rintro (⟨_, _, hfound, _⟩ | ⟨_, rfl⟩)
      · cases hfound
      · rfl
    · rintro rfl
      exact .inr ⟨.inr rfl, rfl⟩
  | some found =>
    have hne : d.implementationUri ≠ "" := by
      intro h
      rw [h, find_empty] at hfind
      cases hfind
    constructor
    · rintro (⟨_, _, hfound, rfl⟩ | ⟨hempty | hnone, _⟩)
      · cases hfound
        rfl
      · exact absurd hempty hne
      · cases hnone
    · rintro rfl
      exact .inl ⟨found, hne, rfl, rfl⟩

/-- Lists that are related by the graph of a function, element by element. -/
private theorem forall₂_iff_map {α β : Type} {R : α → β → Prop} {f : α → β}
    (h : ∀ a b, R a b ↔ f a = b) {l : List α} {l' : List β} :
    List.Forall₂ R l l' ↔ l.map f = l' := by
  have hgraph : R = fun a b => f a = b := by
    funext a b
    exact propext (h a b)
  rw [hgraph, ← List.forall₂_map_left_iff, List.forall₂_eq_eq_eq]

/-- A registry in which every shader is pointed at its file is what the loop over them makes. -/
theorem points_iff : p.Points isFile r r' ↔ r.mapDescriptors (p.resolveDescriptor isFile) = r' := by
  have hentry : ∀ e e' : String × List ShaderDescriptor,
      (e.1 = e'.1 ∧ List.Forall₂ (p.PointsAt isFile) e.2 e'.2) ↔
        (e.1, e.2.map (p.resolveDescriptor isFile)) = e' := by
    intro e e'
    have hshaders : List.Forall₂ (p.PointsAt isFile) e.2 e'.2 ↔
        e.2.map (p.resolveDescriptor isFile) = e'.2 := by
      apply forall₂_iff_map
      intro d d'
      exact pointsAt_iff
    rw [hshaders]
    exact (@Prod.ext_iff _ _ (e.1, e.2.map (p.resolveDescriptor isFile)) e').symm
  unfold Points
  rw [forall₂_iff_map hentry]
  constructor
  · intro h
    exact congrArg ShaderRegistry.mk (OrderedMap.ext h)
  · rintro rfl
    rfl

/-- Without roots, only an absolute path is found. -/
theorem find_eq_some_of_roots_nil (hroots : p.roots = []) {directory name found : String} :
    p.find isFile directory name = some found ↔
      Path.isAbsolute name = true ∧ isFile name = true ∧ found = name := by
  unfold find candidates
  rw [hroots, List.map_nil]
  by_cases hempty : name = ""
  · subst hempty
    simp [Path.isAbsolute]
  · rw [if_neg (by simpa using hempty)]
    by_cases habsolute : Path.isAbsolute name = true
    · rw [if_pos habsolute]
      by_cases hfile : isFile name = true
      · simp [habsolute, hfile, eq_comm]
      · simp [hfile]
    · simp [habsolute]

theorem resolveDescriptor_eq_self_iff (hroots : p.roots = []) :
    p.resolveDescriptor isFile d = d ↔
      (Path.isAbsolute d.implementationUri = true → isFile d.implementationUri = true →
        d.resolvedUri = d.implementationUri) := by
  unfold resolveDescriptor
  cases hfind : p.find isFile shadersDirectory d.implementationUri with
  | none =>
    refine iff_of_true rfl fun habsolute hfile => ?_
    rw [(find_eq_some_of_roots_nil hroots).2 ⟨habsolute, hfile, rfl⟩] at hfind
    cases hfind
  | some found =>
    obtain ⟨habsolute, hfile, rfl⟩ := (find_eq_some_of_roots_nil hroots).1 hfind
    constructor
    · intro h _ _
      exact (congrArg ShaderDescriptor.resolvedUri h).symm
    · intro h
      exact congrArg (fun uri => { d with resolvedUri := uri }) (h habsolute hfile).symm

theorem find_append_root {directory name : String}
    (hnone : name ≠ "" → Path.isAbsolute name = false →
      isFile (Path.join (Path.join root directory) name) = false) :
    (ShaderPackage.mk (p.roots ++ [root])).find isFile directory name =
      p.find isFile directory name := by
  unfold find candidates
  by_cases hempty : name = ""
  · subst hempty
    rfl
  · by_cases habsolute : Path.isAbsolute name = true
    · simp only [habsolute, if_true]
    · have hfile := hnone hempty (by simpa using habsolute)
      simp [hempty, habsolute, hfile, List.find?_append]

theorem resolveDescriptor_append_root (hnone : HoldsNone root isFile r) (hd : d ∈ r.descriptors) :
    (ShaderPackage.mk (p.roots ++ [root])).resolveDescriptor isFile d =
      p.resolveDescriptor isFile d := by
  unfold resolveDescriptor
  rw [find_append_root (hnone d hd)]

/-! ## The stop in front of the loop -/

/-- To stop where there are no roots comes to the same as the loop, unless a shader is passed
over. -/
theorem resolveImplementations_eq_iff :
    p.resolveImplementations isFile r = r.mapDescriptors (p.resolveDescriptor isFile) ↔
      ¬ p.PassesOver isFile r := by
  unfold resolveImplementations PassesOver
  cases hroots : p.roots with
  | cons first rest => simp
  | nil =>
    rw [List.isEmpty_nil, if_pos rfl, eq_comm, ShaderRegistry.mapDescriptors_eq_self_iff]
    simp only [resolveDescriptor_eq_self_iff hroots, true_and, not_exists, not_and, not_not]

/-- With a further root there are roots, so the loop is run. It makes what it would have made
without that root, if nothing is found there. -/
theorem resolveImplementations_append_root (hnone : HoldsNone root isFile r) :
    (ShaderPackage.mk (p.roots ++ [root])).resolveImplementations isFile r =
      r.mapDescriptors (p.resolveDescriptor isFile) := by
  have hroots : (p.roots ++ [root]).isEmpty = false := by simp
  unfold resolveImplementations
  rw [hroots, if_neg Bool.false_ne_true]
  exact ShaderRegistry.mapDescriptors_eq_iff.2 fun d hd => resolveDescriptor_append_root hnone hd

/-- Every shader is pointed at the file that the package finds for it, and a further root without
any of the files changes nothing, exactly when no shader is passed over. Where one is, none is
pointed at anything. -/
theorem points_resolveImplementations_iff (p : ShaderPackage) (isFile : String → Bool)
    (r : ShaderRegistry) :
    (p.Points isFile r (p.resolveImplementations isFile r) ↔ ¬ p.PassesOver isFile r) ∧
      (∀ root, HoldsNone root isFile r →
        ((ShaderPackage.mk (p.roots ++ [root])).resolveImplementations isFile r =
            p.resolveImplementations isFile r ↔ ¬ p.PassesOver isFile r)) ∧
      (p.PassesOver isFile r → p.resolveImplementations isFile r = r) := by
  refine ⟨?_, fun root hnone => ?_, fun hpasses => ?_⟩
  · rw [points_iff, eq_comm]
    exact resolveImplementations_eq_iff
  · rw [resolveImplementations_append_root hnone, eq_comm]
    exact resolveImplementations_eq_iff
  · unfold resolveImplementations
    rw [hpasses.1, List.isEmpty_nil, if_pos rfl]

end ShaderPackage

/-- A registry with one shader, whose implementation is at a path. -/
def registryOfShader (uri : String) : ShaderRegistry :=
  .ofList [{ ShaderDescriptor.ofIdentifier "Built" "OSL" "bxdf" with implementationUri := uri }]

theorem implementationUri_of_mem_registryOfShader {uri : String} {d : ShaderDescriptor}
    (hd : d ∈ (registryOfShader uri).descriptors) : d.implementationUri = uri := by
  rw [List.mem_singleton.1 hd]

theorem points_registryOfShader :
    let p := ShaderPackage.mk ["lib"]
    let isFile := fun path => path == "lib/shaders/Built.oso"
    let r := registryOfShader "Built.oso"
    p.Points isFile r (p.resolveImplementations isFile r) ∧
      ShaderPackage.HoldsNone "other" isFile r ∧
      (ShaderPackage.mk ["lib", "other"]).resolveImplementations isFile r =
        p.resolveImplementations isFile r ∧
      p.resolveImplementations isFile r ≠ r := by
  intro p isFile r
  have hpasses : ¬ p.PassesOver isFile r := fun h => by cases h.1
  have hnone : ShaderPackage.HoldsNone "other" isFile r := by
    intro d hd _ _
    rw [implementationUri_of_mem_registryOfShader hd]
    decide
  obtain ⟨hpoints, happend, -⟩ := ShaderPackage.points_resolveImplementations_iff p isFile r
  exact ⟨hpoints.2 hpasses, hnone, (happend "other" hnone).2 hpasses, by decide⟩

/-- A shader at an absolute path is left as it is by a package without roots, and pointed at its
file by one with a root that does not have it. -/
theorem exists_shader_passed_over :
    ∃ (isFile : String → Bool) (r : ShaderRegistry) (root : String),
      ShaderPackage.HoldsNone root isFile r ∧
      ¬ (ShaderPackage.mk []).Points isFile r
        ((ShaderPackage.mk []).resolveImplementations isFile r) ∧
      (ShaderPackage.mk [root]).resolveImplementations isFile r ≠
        (ShaderPackage.mk []).resolveImplementations isFile r := by
  refine ⟨fun path => path == "/lib/Built.oso", registryOfShader "/lib/Built.oso", "other",
    ?_, ?_, by decide⟩
  · intro d hd _ habsolute
    rw [implementationUri_of_mem_registryOfShader hd] at habsolute
    exact absurd habsolute (by decide)
  · rw [ShaderPackage.points_iff]
    decide

end ShadingGraph
