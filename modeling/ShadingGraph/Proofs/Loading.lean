import ShadingGraph.Files.Tree
import ShadingGraph.Loading

/-!
# Loading from a tree of files

What reading a document from a tree yields, and that it leaves the tree as it is; and that what has
been written to a path is read from it.

## Main definitions

- `FileTree.HoldsSettings`, `FileTree.HoldsRegistry`, `FileTree.HoldsNetwork` — what a document is
- `FileTree.LoadsRegistry` — the registry of a document, or the builtin one
- `FileTree.Yields` — the results of a computation that only reads
- `FileTree.withFile` — the tree with a file at a place

## Main results

- `FileTree.Yields.bind` — a computation that goes on with what another one yields
- `FileTree.yields_loadSettings`, `FileTree.yields_loadRegistry`, `FileTree.yields_loadNetwork` —
  loading yields what the documents hold
- `FileTree.run_saveSettings` — saving writes one file or changes nothing
- `FileTree.read_of_write`, `FileTree.run_loadSettings_of_saveSettings` — what has been written is
  read
-/

namespace ShadingGraph

/-! ## Documents -/

namespace FileTree

variable (t : FileTree)

/-- The file at a path is a document of settings. -/
def HoldsSettings (path : String) (s : Settings) : Prop :=
  ∃ text, t.read path = .ok text ∧ Settings.ofRon text = .ok s

/-- The file at a path is a document of a registry, whose implementations are looked for in a
package. -/
def HoldsRegistry (package : ShaderPackage) (path : String) (r : ShaderRegistry) : Prop :=
  ∃ text, t.read path = .ok text ∧ ∃ parsed, ShaderRegistry.ofRon? text = some parsed ∧
    r = package.resolveImplementations t.isFile parsed

/-- The file at a path is a document of a network, whose file references are looked for in a
package. -/
def HoldsNetwork (package : ShaderPackage) (path : String) (net : MaterialNetwork) : Prop :=
  ∃ text, t.read path = .ok text ∧ ∃ parsed, MaterialNetwork.ofRon? text = some parsed ∧
    net = (package.resolveAssets t.isFile parsed).1

/-- The registry of a document, or the builtin one where no document is given. -/
inductive LoadsRegistry (package : ShaderPackage) : Option String → ShaderRegistry → Prop where
  | builtin :
    LoadsRegistry package none (package.resolveImplementations t.isFile RenderMan.registry)
  | document (path : String) (r : ShaderRegistry) (hdocument : t.HoldsRegistry package path r) :
    LoadsRegistry package (some path) r

/-! ## Computations that only read -/

/-- A computation leaves the tree as it is, and has the results that a predicate admits; where it
admits none, it fails. -/
def Yields {ε α : Type} (x : StateM FileTree (Except ε α)) (P : α → Prop) : Prop :=
  ∃ r, x.run t = (r, t) ∧ ∀ a, r = .ok a ↔ P a

variable {t} {ε ε' α β : Type} {x : StateM FileTree (Except ε α)} {P Q : α → Prop}

theorem Yields.unique (h : t.Yields x P) {a b : α} (ha : P a) (hb : P b) : a = b := by
  obtain ⟨r, -, hr⟩ := h
  exact Except.ok.inj (((hr a).2 ha).symm.trans ((hr b).2 hb))

theorem Yields.congr (h : t.Yields x P) (hP : ∀ a, P a ↔ Q a) : t.Yields x Q := by
  obtain ⟨r, hrun, hr⟩ := h
  exact ⟨r, hrun, fun a => (hr a).trans (hP a)⟩

theorem yields_of_run {a : α} (h : x.run t = (.ok a, t)) : t.Yields x (· = a) :=
  ⟨.ok a, h, fun b => by rw [Except.ok.injEq, eq_comm]⟩

theorem yields_error (e : ε) :
    t.Yields (pure (.error e) : StateM FileTree (Except ε α)) fun _ => False :=
  ⟨.error e, rfl, fun b => by simp⟩

theorem run_bind_of_run {x : StateM FileTree α} {f : α → StateM FileTree β} {a : α} {t' : FileTree}
    (h : x.run t = (a, t')) : (x >>= f).run t = (f a).run t' := by
  rw [StateT.run_bind, h]
  rfl

theorem Yields.after {x : StateM FileTree α} {f : α → StateM FileTree (Except ε β)} {a : α}
    {R : β → Prop} (hx : x.run t = (a, t)) (hf : t.Yields (f a) R) : t.Yields (x >>= f) R := by
  obtain ⟨r, hrun, hr⟩ := hf
  exact ⟨r, (run_bind_of_run hx).trans hrun, hr⟩

/-- A computation goes on with what another one yields, and fails where that fails. -/
theorem Yields.bind (hx : t.Yields x P) {f : Except ε α → StateM FileTree (Except ε' β)}
    {R : α → β → Prop} (herror : ∀ e, ∃ e', f (.error e) = pure (.error e'))
    (hok : ∀ a, P a → t.Yields (f (.ok a)) (R a)) :
    t.Yields (x >>= f) fun b => ∃ a, P a ∧ R a b := by
  obtain ⟨r, hrun, hr⟩ := hx
  cases r with
  | error e =>
    obtain ⟨e', hfail⟩ := herror e
    have hnone : ∀ a, ¬ P a := fun a ha => by cases (hr a).2 ha
    refine ⟨.error e', ?_, fun b => by simp [hnone]⟩
    rw [run_bind_of_run hrun, hfail]
    rfl
  | ok a =>
    have ha : P a := (hr a).1 rfl
    obtain ⟨r', hrun', hr'⟩ := hok a ha
    refine ⟨r', (run_bind_of_run hrun).trans hrun', fun b => (hr' b).trans ?_⟩
    constructor
    · exact fun hb => ⟨a, ha, hb⟩
    · rintro ⟨a', ha', hb⟩
      obtain rfl := Except.ok.inj ((hr a').2 ha')
      exact hb

variable (t)

theorem yields_read (path : String) :
    t.Yields (access.read path) fun text => t.read path = .ok text :=
  ⟨_, rfl, fun _ => Iff.rfl⟩

theorem run_probe (paths : List String) : (access.probe paths).run t = (t.isFile, t) := rfl

theorem run_write (path text : String) :
    (access.write path text).run t =
      match t.write path text with
      | .error e => (.error e, t)
      | .ok t' => (.ok (), t') := by
  cases hwrite : t.write path text with
  | error e => simp [access, hwrite]; rfl
  | ok t' => simp [access, hwrite]; rfl

theorem run_saveSettings (path : String) (s : Settings) :
    (access.saveSettings path s).run t =
      match t.write path s.toRon with
      | .error cause => (.error (.file cause), t)
      | .ok t' => (.ok (), t') := by
  have hwritten := t.run_write path s.toRon
  cases hwrite : t.write path s.toRon with
  | error cause =>
    rw [hwrite] at hwritten
    exact run_bind_of_run hwritten
  | ok t' =>
    rw [hwrite] at hwritten
    exact run_bind_of_run hwritten

/-- No file is at the empty path. -/
theorem read_empty : t.read "" = .error .notFound := rfl

theorem yields_loadSettings (path : String) :
    t.Yields (access.loadSettings path) (t.HoldsSettings path) := by
  refine (t.yields_read path).bind (fun e => ⟨_, rfl⟩) fun text _ => ?_
  dsimp only
  cases Settings.ofRon text with
  | error e => exact (yields_error _).congr fun s => by simp
  | ok s => exact (yields_of_run rfl).congr fun s' => by rw [Except.ok.injEq, eq_comm]

theorem run_resolveAssets (package : ShaderPackage) (net : MaterialNetwork) :
    (access.resolveAssets package net).run t = (package.resolveAssets t.isFile net, t) := rfl

theorem run_resolveImplementations (package : ShaderPackage) (r : ShaderRegistry) :
    (access.resolveImplementations package r).run t =
      (package.resolveImplementations t.isFile r, t) := rfl

theorem yields_loadNetwork (package : ShaderPackage) (path : String) :
    t.Yields (access.loadNetwork package path) (t.HoldsNetwork package path) := by
  refine (t.yields_read path).bind (fun e => ⟨_, rfl⟩) fun text _ => ?_
  dsimp only
  cases MaterialNetwork.ofRon? text with
  | none => exact (yields_error _).congr fun net => by simp
  | some parsed =>
    have hresolved : t.Yields
        (do return .ok (← access.resolveAssets package parsed).1 :
          StateM FileTree (Except LoadError MaterialNetwork))
        (· = (package.resolveAssets t.isFile parsed).1) :=
      yields_of_run (run_bind_of_run (t.run_resolveAssets package parsed))
    exact hresolved.congr fun net => by simp

/-- Where no document is given, the builtin registry is taken. -/
theorem yields_loadRegistry (package : ShaderPackage) (path? : Option String) :
    t.Yields (access.loadRegistry package path?) (t.LoadsRegistry package path?) := by
  have hresolved : ∀ r, t.Yields
      (do return .ok (← access.resolveImplementations package r) :
        StateM FileTree (Except LoadError ShaderRegistry))
      (· = package.resolveImplementations t.isFile r) := fun r =>
    yields_of_run (run_bind_of_run (t.run_resolveImplementations package r))
  cases path? with
  | none =>
    refine (hresolved RenderMan.registry).congr fun r => ⟨?_, ?_⟩
    · rintro rfl
      exact .builtin
    · rintro ⟨⟩
      rfl
  | some path =>
    have hdocument : t.Yields (access.loadRegistry package (some path))
        (t.HoldsRegistry package path) := by
      refine (t.yields_read path).bind (fun e => ⟨_, rfl⟩) fun text _ => ?_
      dsimp only
      cases ShaderRegistry.ofRon? text with
      | none => exact (yields_error _).congr fun r => by simp
      | some parsed => exact (hresolved parsed).congr fun r => by simp
    refine hdocument.congr fun r => ⟨.document path r, ?_⟩
    rintro (_ | ⟨_, _, hr⟩)
    exact hr

/-! ## Written files -/

/-- The tree with a file at a place. -/
def withFile (place : Location) (text : String) : FileTree :=
  { t with entries := t.entries.insert place (.file text) }

variable {t}

/-- Directories stay where they are, if the file is not written over one. -/
theorem isDirectory_withFile {place place' : Location} (text : String)
    (hplace : t.entry? place ≠ some .directory) (h : t.entry? place' = some .directory) :
    FileTree.entry? (t.withFile place text) place' = some .directory := by
  have hne : place' ≠ place := fun heq => hplace (heq ▸ h)
  unfold entry? at h ⊢
  split
  case isTrue => rfl
  case isFalse hroot =>
    rw [if_neg hroot] at h
    rw [withFile, OrderedMap.find?_insert, if_neg hne, h]

/-- Through directories, the same way leads to the same place. -/
theorem walk_withFile {place : Location} (text : String)
    (hplace : t.entry? place ≠ some .directory) {start found : Location}
    {pieces : List (List Char)} (h : t.walk start pieces = .ok found) :
    (t.withFile place text).walk start pieces = .ok found := by
  induction pieces generalizing start with
  | nil => exact h
  | cons piece pieces ih =>
    rw [walk] at h ⊢
    split at h
    case h_1 => cases h
    case h_2 hdirectory =>
      rw [isDirectory_withFile text hplace hdirectory]
      dsimp only
      split at h
      case isTrue => cases h
      case isFalse hlength =>
        rw [if_neg hlength]
        exact ih h
    case h_3 => cases h

theorem locate_withFile {place : Location} (text : String)
    (hplace : t.entry? place ≠ some .directory) {path : String} {found : Location}
    (h : t.locate path = .ok found) : (t.withFile place text).locate path = .ok found := by
  unfold locate at h ⊢
  split at h
  · cases h
  · exact walk_withFile text hplace h

/-- A file is written at the place of its path, where no directory is. -/
theorem exists_of_write {path text : String} {t' : FileTree} (h : t.write path text = .ok t') :
    ∃ place, t.locate path = .ok place ∧ t.entry? place ≠ some .directory ∧
      t' = t.withFile place text := by
  unfold write at h
  split at h
  case isTrue =>
    -- a path with a slash at its end is always refused
    split at h
    · cases h
    · split at h <;> cases h
  case isFalse =>
    split at h
    case h_1 => cases h
    case h_2 place hplace =>
      split at h
      case h_1 => cases h
      case h_2 => cases h
      case h_3 hdirectory _ => exact ⟨place, hplace, hdirectory, (Except.ok.inj h).symm⟩

/-- What has been written to a path is read from it. -/
theorem read_of_write {path text : String} {t' : FileTree} (h : t.write path text = .ok t') :
    t'.read path = .ok text := by
  obtain ⟨place, hplace, hentry, rfl⟩ := exists_of_write h
  have hroot : place ≠ [] := by
    rintro rfl
    exact hentry rfl
  have hfound : FileTree.entry? (t.withFile place text) place = some (.file text) := by
    simp [FileTree.entry?, hroot, withFile, OrderedMap.find?_insert]
  rw [read, find, locate_withFile text hentry hplace]
  dsimp only
  rw [hfound]

variable (t)

theorem run_loadSettings (path : String) :
    (access.loadSettings path).run t =
      (match t.read path with
        | .error cause => .error (.file cause)
        | .ok text => (Settings.ofRon text).mapError .document, t) := by
  have hread : (access.read path).run t = (t.read path, t) := rfl
  rw [FileAccess.loadSettings, run_bind_of_run hread]
  cases t.read path with
  | error cause => rfl
  | ok text =>
    dsimp only
    cases Settings.ofRon text <;> rfl

/-- Saved settings are loaded from the document that was written. -/
theorem run_loadSettings_of_saveSettings {t' : FileTree} {path : String} {s : Settings}
    (h : (access.saveSettings path s).run t = (.ok (), t')) :
    (access.loadSettings path).run t' = ((Settings.ofRon s.toRon).mapError .document, t') := by
  have hwrite : t.write path s.toRon = .ok t' := by
    rw [run_saveSettings] at h
    cases hwrite : t.write path s.toRon with
    | error cause =>
      rw [hwrite] at h
      cases congrArg Prod.fst h
    | ok written =>
      rw [hwrite] at h
      exact congrArg (Except.ok ·.2) h
  rw [run_loadSettings, read_of_write hwrite]

end FileTree

end ShadingGraph
