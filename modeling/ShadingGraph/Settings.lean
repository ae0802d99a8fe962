import ShadingGraph.Package
import ShadingGraph.Renderer.Material
import ShadingGraph.Ron.Document
import ShadingGraph.Ron.Writer

/-!
# Settings

Settings are kept in a versioned document: which shaders are accepted, which filters run, where
shader packages are, and how the program logs and watches.

## Main definitions

- `Settings`, `Settings.standard` — the settings and their defaults
- `Settings.ofRon`, `Settings.toRon` — the document form
- `Settings.sync`, `Settings.package` — what the settings mean for a conversion
-/

namespace ShadingGraph

/-- The contents of a settings document. -/
structure Settings where
  /-- The version of the document form. -/
  version : UInt32
  /-- The acceptable source types, most preferred first. -/
  sourceTypes : List String
  /-- The configuration names of the filters, in order. -/
  filters : List String
  /-- The roots of shader packages; relative ones start from the directory of the document. -/
  shaderRoots : List String
  /-- What is logged where the environment does not say otherwise. -/
  logFilter : String
  /-- How long a watched file has to be quiet before it is read again, in milliseconds. -/
  watchDebounce : UInt64
deriving DecidableEq

/-- Why a settings document is refused. -/
inductive SettingsError where
  | malformed
  /-- The version is newer than the supported one. -/
  | newerVersion (version : UInt32)
deriving DecidableEq

namespace Settings

/-- The newest version of the document form. -/
def supportedVersion : UInt32 := 1

/-- The name of a settings file that stands beside a network. -/
def fileName : String := "shadenet.ron"

/-- The configuration names of the filters that run where none are given. -/
def standardFilters : List String := [NetworkFilter.resolveVstructs.name]

/-- What is logged where nothing is given. -/
def standardLogFilter : String := "info"

/-- How long a watched file has to be quiet where nothing is given, in milliseconds. -/
def standardWatchDebounce : UInt64 := 250

/-- The settings that hold where there is no document. -/
def standard : Settings where
  version := supportedVersion
  sourceTypes := SyncSettings.standardSourceTypes
  filters := standardFilters
  shaderRoots := []
  logFilter := standardLogFilter
  watchDebounce := standardWatchDebounce

instance : Inhabited Settings := ⟨standard⟩

/-! ## Document form -/

/-- The fields of the settings that have been read. -/
structure Fields where
  version : Option UInt32
  sourceTypes : Option (List String)
  filters : Option (List String)
  shaderRoots : Option (List String)
  logFilter : Option String
  watchDebounce : Option UInt64

/-- A number without a sign, of as many bits as are given. -/
def readNatural (bits : Nat) : Ron.Reader Nat :=
  Ron.mapReader Int.toNat (Ron.anywhere (Ron.readInteger (.unsigned bits)))

/-- A list of strings. -/
def readStrings : Ron.Reader (List String) := Ron.readList (Ron.anywhere Ron.readString)

/-- The fields of the settings. -/
def fields : List (Ron.Field Fields) :=
  [ Ron.field "version" (Ron.mapReader UInt32.ofNat (readNatural 32)) (·.version)
      fun st a => { st with version := some a },
    Ron.field "source_types" readStrings (·.sourceTypes)
      fun st a => { st with sourceTypes := some a },
    Ron.field "filters" readStrings (·.filters) fun st a => { st with filters := some a },
    Ron.field "shader_roots" readStrings (·.shaderRoots)
      fun st a => { st with shaderRoots := some a },
    Ron.field "log_filter" (Ron.anywhere Ron.readString) (·.logFilter)
      fun st a => { st with logFilter := some a },
    Ron.field "watch_debounce_ms" (Ron.mapReader UInt64.ofNat (readNatural 64)) (·.watchDebounce)
      fun st a => { st with watchDebounce := some a } ]

/-- The settings of the fields of a document. Only the version has to be there; every other field
that is missing is set by itself. -/
def ofFields (st : Fields) : Option Settings :=
  st.version.map fun version =>
    { version
      sourceTypes := st.sourceTypes.getD SyncSettings.standardSourceTypes
      filters := st.filters.getD standardFilters
      shaderRoots := st.shaderRoots.getD []
      logFilter := st.logFilter.getD standardLogFilter
      watchDebounce := st.watchDebounce.getD standardWatchDebounce }

/-- Settings in a document. -/
def read : Ron.Reader Settings :=
  Ron.readStruct false "Settings" fields Ron.skipValue ⟨none, none, none, none, none, none⟩ ofFields

/-- The settings of a document. -/
def ofRon (text : String) : Except SettingsError Settings :=
  match Ron.parse read text with
  | none => .error .malformed
  | some s => if supportedVersion < s.version then .error (.newerVersion s.version) else .ok s

/-- Settings in a document. -/
def write : Ron.Writer Settings := fun depth s =>
  Ron.writeStruct "Settings" depth
    [ ("version", fun depth => Ron.writeInteger depth s.version.toNat),
      ("source_types", fun depth => Ron.writeList Ron.writeString depth s.sourceTypes),
      ("filters", fun depth => Ron.writeList Ron.writeString depth s.filters),
      ("shader_roots", fun depth => Ron.writeList Ron.writeString depth s.shaderRoots),
      ("log_filter", fun depth => Ron.writeString depth s.logFilter),
      ("watch_debounce_ms", fun depth => Ron.writeInteger depth s.watchDebounce.toNat) ]

/-- The document of the settings. -/
def toRon (s : Settings) : String := String.ofList (write 0 s)

/-! ## Meaning -/

/-- What a sync takes from the settings; names of no filter are left out. -/
def sync (s : Settings) (isImage : String → Bool) : SyncSettings :=
  ⟨s.sourceTypes, FilterChain.ofNames s.filters, isImage⟩

/-- The shader package of the settings; relative roots start from a base directory. -/
def package (s : Settings) (base : String) : ShaderPackage := ⟨s.shaderRoots.map (Path.join base)⟩

end Settings

/-- The message on a refused document, where the document could be read at all. -/
def SettingsError.message? : SettingsError → Option String
  | .malformed => none
  | .newerVersion version =>
    some ("Settings version " ++ String.ofList (digitsOf version.toNat) ++
      " is newer than supported version " ++
      String.ofList (digitsOf Settings.supportedVersion.toNat))

end ShadingGraph
