import ShadingGraph.Proofs.Command.Outcome
import ShadingGraph.Proofs.Files.Place
import ShadingGraph.Proofs.Settings

/-!
# Settings that a run writes

A run that writes its settings writes them as they were loaded. Loaded again from where they were
written, they are the same, but their relative roots start from the directory of the new file. They
lead to the same places as before exactly if, as many places back as each of them leads, the old
directory and the new one are the same.

## Main definitions

- `Settings.RootsMeet` — the relative roots lead back to the same places from two directories

## Main results

- `Settings.places_package_iff` — when the roots of a package lead to the same places from two bases
- `Program.Ends.of_writeSettings` — how a run ends that is asked to write its settings
- `Program.places_of_writtenSettings` — the settings and the roots of what such a run writes
-/

namespace ShadingGraph

namespace Settings

/-- From two directories, every relative root leads back to one and the same place, from which the
names that are left lead on. -/
def RootsMeet (s : Settings) (place place' : Location) : Prop :=
  ∀ root ∈ s.shaderRoots, Path.isAbsolute root = false →
    place.rdrop (Route.ofPath root).back = place'.rdrop (Route.ofPath root).back

theorem admitted_of_ofRon {text : String} {s : Settings} (h : ofRon text = .ok s) :
    s.admitted = .ok s := by
  unfold ofRon at h
  split at h
  · cases h
  · split at h
    case isTrue => cases h
    case isFalse hversion =>
      cases h
      exact if_pos (UInt32.not_lt.1 hversion)

/-- Whether roots lead to the same places is decided by how far back the relative ones lead. -/
theorem places_package_iff {s : Settings} {t t' : FileTree} {base base' : String} :
    (s.package base).roots.map t.place = (s.package base').roots.map t'.place ↔
      s.RootsMeet (t.place base) (t'.place base') := by
  simp only [package, List.map_map, List.map_inj_left, Function.comp_apply,
    FileTree.place_join_eq_iff, RootsMeet]

/-- Roots that meet and can be followed from both directories lead to the same places. -/
theorem RootsMeet.locate_eq {s : Settings} {t t' : FileTree} {base base' root : String}
    {found found' : Location} (h : s.RootsMeet (t.place base) (t'.place base'))
    (hroot : root ∈ s.shaderRoots) (hfound : t.locate (Path.join base root) = .ok found)
    (hfound' : t'.locate (Path.join base' root) = .ok found') : found = found' := by
  rw [← FileTree.place_of_locate hfound, ← FileTree.place_of_locate hfound']
  exact FileTree.place_join_eq_iff.2 (h root hroot)

end Settings

namespace Program

open FileTree

variable {t after : FileTree} {isImage : String → Bool} {arguments : List String} {c : CommandLine}
  {o : Outcome} {s : Settings} {base path : String}

theorem loadsSettings_iff_run :
    c.LoadsSettings t s base ↔ (loadSettings access c).run t = (.ok (s, base), t) := by
  obtain ⟨r, hrun, hr⟩ := yields_loadSettings t c
  rw [hrun, Prod.mk.injEq, and_iff_left rfl]
  exact (hr (s, base)).symm

/-- Settings that a run loads are of a supported version. -/
theorem admitted_of_loadsSettings (h : c.LoadsSettings t s base) : s.admitted = .ok s := by
  rcases h with ⟨_, -, ⟨_, -, hs⟩, -⟩ | ⟨-, rfl, -⟩
  · exact Settings.admitted_of_ofRon hs
  · rfl

/-- What has been written is loaded by every run that is given its path. -/
theorem loadsSettings_of_write (hs : s.admitted = .ok s) (hwrite : t.write path s.toRon = .ok after)
    (hc : c.settings = some path) :
    c.LoadsSettings after s (Path.directory path) :=
  .inl ⟨path, .inl hc, ⟨s.toRon, read_of_write hwrite, (Settings.ofRon_toRon s).trans hs⟩, rfl⟩

/-- A run that is asked to write its settings fails and changes nothing, or writes what it has
loaded. -/
theorem Ends.of_writeSettings (h : Ends t isImage arguments o after)
    (hc : CommandLine.ofArguments arguments = .ok c) (hhelp : c.help = false)
    (hpath : c.writeSettings = some path) :
    o.exit = 1 ∧ after = t ∨
      o.exit = 0 ∧ ∃ s base, c.LoadsSettings t s base ∧ t.write path s.toRon = .ok after := by
  cases h with
  | refused e he => cases he.symm.trans hc
  | help c' hc' hhelp' =>
    cases hc'.symm.trans hc
    cases hhelp'.symm.trans hhelp
  | unsettled c' e hc' _ _ => exact .inl ⟨rfl, rfl⟩
  | unwritten c' s base path' cause hc' _ _ _ _ => exact .inl ⟨rfl, rfl⟩
  | written c' s base path' after hc' _ hs hpath' hwrite =>
    cases hc'.symm.trans hc
    cases hpath'.symm.trans hpath
    exact .inr ⟨rfl, s, base, hs, hwrite⟩
  | unloaded c' s base e hc' _ _ hpath' _ =>
    cases hc'.symm.trans hc
    cases hpath'.symm.trans hpath
  | synced c' s base session report hc' _ _ hpath' _ =>
    cases hc'.symm.trans hc
    cases hpath'.symm.trans hpath

/-- A run writes the settings that it loads, if they can be written. -/
theorem run_of_write (hc : CommandLine.ofArguments arguments = .ok c) (hhelp : c.help = false)
    (hpath : c.writeSettings = some path) (hs : c.LoadsSettings t s base)
    (hwrite : t.write path s.toRon = .ok after) :
    (run access isImage arguments).run t = (.success "", after) := by
  have hsaved : (access.saveSettings path s).run t = (.ok (), after) := by
    rw [run_saveSettings, hwrite]
  unfold run
  rw [hc]
  dsimp only
  rw [hhelp, if_neg Bool.false_ne_true, run_bind_of_run (loadsSettings_iff_run.1 hs)]
  unfold perform
  rw [hpath]
  exact run_bind_of_run hsaved

/-- Settings that a run has written are loaded again as they were, from the directory that holds the
new file. Their roots lead to the same places as in the run that wrote them exactly if the relative
ones lead back to the same places from both directories; what the two runs then find by following a
root through their files is one and the same directory. -/
theorem places_of_writtenSettings (hc : CommandLine.ofArguments arguments = .ok c)
    (hhelp : c.help = false) (hpath : c.writeSettings = some path)
    (hrun : (run access isImage arguments).run t = (o, after)) (hexit : o.exit = 0) :
    ∃ s base, (loadSettings access c).run t = (.ok (s, base), t) ∧
      (∀ c' : CommandLine, c'.settings = some path →
        (loadSettings access c').run after = (.ok (s, Path.directory path), after)) ∧
      (∀ name, Path.fileName? path = some name →
        after.place path = after.place (Path.directory path) ++ [name]) ∧
      ((s.package base).roots.map t.place =
          (s.package (Path.directory path)).roots.map after.place ↔
        s.RootsMeet (t.place base) (after.place (Path.directory path))) ∧
      (s.RootsMeet (t.place base) (after.place (Path.directory path)) →
        ∀ root ∈ s.shaderRoots, ∀ found found',
          t.locate (Path.join base root) = .ok found →
          after.locate (Path.join (Path.directory path) root) = .ok found' → found = found') := by
  obtain ⟨o', after', hrun', hends⟩ := ends_run t isImage arguments
  cases hrun.symm.trans hrun'
  rcases hends.of_writeSettings hc hhelp hpath with ⟨hfailed, -⟩ | ⟨-, s, base, hs, hwrite⟩
  · rw [hexit] at hfailed
    cases hfailed
  · have hadmitted := admitted_of_loadsSettings hs
    refine ⟨s, base, loadsSettings_iff_run.1 hs, fun c' hc' => ?_, fun name hname => ?_, ?_, ?_⟩
    · exact loadsSettings_iff_run.1 (loadsSettings_of_write hadmitted hwrite hc')
    · exact place_directory hname
    · exact Settings.places_package_iff
    · intro hmeet root hroot found found' hfound hfound'
      exact hmeet.locate_eq hroot hfound hfound'

/-! ## A root beside the settings -/

/-- Settings with one root. -/
def settingsOfRoot (root : String) : Settings := { Settings.standard with shaderRoots := [root] }

/-- Settings with one root and a shader in one directory, and a second directory without files. -/
def filesOfRoot (root : String) : FileTree where
  entries :=
    ⟨[(["a".toList], .directory),
      (["a".toList, "settings.ron".toList], .file (settingsOfRoot root).toRon),
      (["a".toList, "pkg".toList], .directory),
      (["a".toList, "pkg".toList, "shaders".toList], .directory),
      (["a".toList, "pkg".toList, "shaders".toList, "Built.oso".toList], .file ""),
      (["b".toList], .directory)], by
        simp only [List.map_cons, List.map_nil]
        decide⟩
  workingDirectory := []

/-- The settings of the first directory are written to the second one. -/
def moveSettings : List String :=
  ["--settings", "a/settings.ron", "--write-settings", "b/settings.ron"]

/-- The command line of these arguments. -/
def moveCommand : CommandLine :=
  { CommandLine.empty with
    settings := some "a/settings.ron"
    writeSettings := some "b/settings.ron" }

/-- The files with the settings in both directories. -/
def movedFiles (root : String) : FileTree :=
  (filesOfRoot root).withFile ["b".toList, "settings.ron".toList] (settingsOfRoot root).toRon

theorem loadsSettings_moveCommand (root : String) :
    moveCommand.LoadsSettings (filesOfRoot root) (settingsOfRoot root) "a" :=
  .inl ⟨"a/settings.ron", .inl rfl, ⟨(settingsOfRoot root).toRon, rfl, Settings.ofRon_toRon _⟩, rfl⟩

theorem write_filesOfRoot (root : String) :
    (filesOfRoot root).write "b/settings.ron" (settingsOfRoot root).toRon = .ok (movedFiles root) :=
  rfl

theorem run_moveSettings (root : String) :
    (run access isImage moveSettings).run (filesOfRoot root) = (.success "", movedFiles root) :=
  run_of_write rfl rfl rfl (loadsSettings_moveCommand root) (write_filesOfRoot root)

/-- A root that leads back to where both directories stand leads to the same place from both. -/
theorem places_of_rootBeside :
    let isImage : String → Bool := fun _ => false
    let s := settingsOfRoot "../a/pkg"
    let t := filesOfRoot "../a/pkg"
    let after := movedFiles "../a/pkg"
    CommandLine.ofArguments moveSettings = .ok moveCommand ∧ moveCommand.help = false ∧
      moveCommand.writeSettings = some "b/settings.ron" ∧
      (run access isImage moveSettings).run t = (.success "", after) ∧
      (Outcome.success "").exit = 0 ∧
      (loadSettings access moveCommand).run t = (.ok (s, "a"), t) ∧
      (s.package "a").roots.map t.place =
        (s.package (Path.directory "b/settings.ron")).roots.map after.place := by
  intro isImage s t after
  have hrun : (run access isImage moveSettings).run t = (.success "", after) :=
    run_moveSettings "../a/pkg"
  have hload := loadsSettings_iff_run.1 (loadsSettings_moveCommand "../a/pkg")
  refine ⟨rfl, rfl, rfl, hrun, rfl, hload, ?_⟩
  obtain ⟨s', base, hload', -, -, hplaces, -⟩ :=
    places_of_writtenSettings (c := moveCommand) rfl rfl rfl hrun rfl
  cases hload.symm.trans hload'
  apply hplaces.2
  intro root hroot _
  rw [List.mem_singleton.1 hroot]
  decide

/-- A root beside the settings that are loaded leads elsewhere from where they are written: the
shader that it holds is no longer found. -/
theorem exists_root_moved :
    ∃ (t after : FileTree) (isImage : String → Bool) (arguments : List String) (c : CommandLine)
      (path : String) (s : Settings) (base : String),
      CommandLine.ofArguments arguments = .ok c ∧ c.help = false ∧
      c.writeSettings = some path ∧ (run access isImage arguments).run t = (.success "", after) ∧
      (loadSettings access c).run t = (.ok (s, base), t) ∧
      (∀ c' : CommandLine, c'.settings = some path →
        (loadSettings access c').run after = (.ok (s, Path.directory path), after)) ∧
      (s.package base).roots.map t.place ≠
        (s.package (Path.directory path)).roots.map after.place ∧
      ((s.package base).find after.isFile ShaderPackage.shadersDirectory "Built.oso").isSome ∧
      (s.package (Path.directory path)).find after.isFile ShaderPackage.shadersDirectory
        "Built.oso" = none := by
  refine ⟨filesOfRoot "pkg", movedFiles "pkg", fun _ => false, moveSettings, moveCommand,
    "b/settings.ron", settingsOfRoot "pkg", "a", rfl, rfl, rfl, run_moveSettings "pkg",
    loadsSettings_iff_run.1 (loadsSettings_moveCommand "pkg"), ?_, ?_, ?_, ?_⟩
  · intro c' hc'
    exact loadsSettings_iff_run.1 (loadsSettings_of_write rfl (write_filesOfRoot "pkg") hc')
  · decide
  · decide
  · decide

end Program

end ShadingGraph
