import ShadingGraph.Files.Path
import ShadingGraph.Settings

/-!
# Command lines

The arguments of the program: a network document, switches, and options that take the argument
behind them as their value, whatever it looks like. A request for help ends the reading, so that
nothing behind it can be wrong.

## Main definitions

- `Switch`, `ValueOption`, `ArgumentKind` — what an argument can be
- `CommandLine` — the arguments as the program uses them
- `CommandLine.ofArguments` — reads the arguments
- `UsageError` — why arguments are refused
-/

namespace ShadingGraph

/-- An option without a value. -/
inductive Switch where
  | json
  | dump
  | watch
deriving DecidableEq

/-- An option that the next argument belongs to. -/
inductive ValueOption where
  | registry
  | settings
  | writeSettings
  | material
deriving DecidableEq

/-- The text of an option. -/
def ValueOption.flag : ValueOption → String
  | .registry => "--registry"
  | .settings => "--settings"
  | .writeSettings => "--write-settings"
  | .material => "--material"

/-- What an argument is, judged by itself. -/
inductive ArgumentKind where
  /-- A request for help. -/
  | help
  | switch (s : Switch)
  | valueOption (o : ValueOption)
  /-- A dash begins the argument, but it is no option. -/
  | unknown
  /-- A path. -/
  | positional
deriving DecidableEq

/-- The kind of an argument. -/
def ArgumentKind.ofText (argument : String) : ArgumentKind :=
  match argument with
  | "-h" | "--help" => .help
  | "--json" => .switch .json
  | "--dump" => .switch .dump
  | "--watch" => .switch .watch
  | "--registry" => .valueOption .registry
  | "--settings" => .valueOption .settings
  | "--write-settings" => .valueOption .writeSettings
  | "--material" => .valueOption .material
  | _ => if argument.toList.head? = some '-' then .unknown else .positional

/-- Why arguments are refused. -/
inductive UsageError where
  /-- An option is the last argument. -/
  | missingValue (option : ValueOption)
  | unknownArgument (argument : String)
  /-- A second path. -/
  | unexpectedArgument (argument : String)
  /-- There is no path, and nothing to do without one. -/
  | missingNetwork
deriving DecidableEq

/-- The message on refused arguments. -/
def UsageError.message : UsageError → String
  | .missingValue option => "missing value for " ++ option.flag
  | .unknownArgument argument => "unknown argument: " ++ argument
  | .unexpectedArgument argument => "unexpected extra argument: " ++ argument
  | .missingNetwork => "missing network file"

/-- What the program is asked to do. -/
structure CommandLine where
  /-- The network document. It is not needed for help or for writing settings. -/
  network : Option String
  /-- The registry document, in place of the builtin registry. -/
  registry : Option String
  /-- The settings document, in place of the one beside the network. -/
  settings : Option String
  /-- The id of the material, in place of one made from the name of the network document. -/
  material : Option String
  /-- Whether the report is written as JSON. -/
  json : Bool
  /-- Whether the listing of the network is written. -/
  dump : Bool
  /-- Whether the program goes on whenever the network document changes. -/
  watch : Bool
  /-- Where to write the settings, in place of a conversion. -/
  writeSettings : Option String
  /-- Whether help is asked for. -/
  help : Bool
deriving DecidableEq

namespace CommandLine

/-- The command line before the first argument. -/
def empty : CommandLine := ⟨none, none, none, none, false, false, false, none, false⟩

instance : Inhabited CommandLine := ⟨empty⟩

/-- Turns a switch on. -/
def turnOn (c : CommandLine) : Switch → CommandLine
  | .json => { c with json := true }
  | .dump => { c with dump := true }
  | .watch => { c with watch := true }

/-- Gives an option its value; a later value replaces an earlier one. -/
def assign (c : CommandLine) (option : ValueOption) (value : String) : CommandLine :=
  match option with
  | .registry => { c with registry := some value }
  | .settings => { c with settings := some value }
  | .writeSettings => { c with writeSettings := some value }
  | .material => { c with material := some value }

/-- The command line at a request for help, for which no network is looked at. -/
def askHelp (c : CommandLine) : CommandLine := { c with network := none, help := true }

/-- The command line at the end of the arguments. Only settings can be written without a
network. -/
def complete (c : CommandLine) : Except UsageError CommandLine :=
  if c.network.isNone ∧ c.writeSettings.isNone then .error .missingNetwork else .ok c

/-- Reads arguments behind those that have been read. -/
def readArguments (c : CommandLine) : List String → Except UsageError CommandLine
  | [] => c.complete
  | argument :: rest =>
    match ArgumentKind.ofText argument with
    | .help => .ok c.askHelp
    | .switch s => (c.turnOn s).readArguments rest
    | .valueOption option =>
      match rest with
      | [] => .error (.missingValue option)
      | value :: rest => (c.assign option value).readArguments rest
    | .unknown => .error (.unknownArgument argument)
    | .positional =>
      if c.network.isSome then .error (.unexpectedArgument argument)
      else { c with network := some argument }.readArguments rest

/-- The command line of the arguments. -/
def ofArguments (arguments : List String) : Except UsageError CommandLine :=
  empty.readArguments arguments

/-! ## Meaning -/

/-- The directory of the network, where it has one. -/
def networkDirectory? (c : CommandLine) : Option String := c.network.bind Path.parent?

/-- The id of the material: the one that was given, or a slash and the name of the network document
without its extension. -/
def materialId (c : CommandLine) : String :=
  c.material.getD ("/" ++ (c.network.bind Path.stem?).getD "")

/-- The settings document beside the network. -/
def settingsBeside (c : CommandLine) : String :=
  Path.join (c.networkDirectory?.getD ".") Settings.fileName

/-- The settings document: the one that was given, or the one beside the network if it is there. -/
def settingsPath? (c : CommandLine) (isFile : String → Bool) : Option String :=
  c.settings.or (if isFile c.settingsBeside then some c.settingsBeside else none)

end CommandLine

/-- The lines of the help text. -/
def usageLines : List String :=
  [ "usage: shadenet <network.ron> [options]",
    "",
    "options:",
    "  --registry <registry.ron>  shader registry (default: builtin RenderMan nodes)",
    "  --settings <shadenet.ron>  settings file (default: shadenet.ron next to the network)",
    "  --material <path>          material id (default: /<network file stem>)",
    "  --json                     print committed networks as JSON",
    "  --dump                     print the filtered material network",
    "  --watch                    re-sync whenever the network file changes",
    "  --write-settings <path>    write the effective settings to <path> and exit",
    "  -h, --help                 show this help" ]

/-- The help text. -/
def usage : String := "\n".intercalate usageLines

end ShadingGraph
