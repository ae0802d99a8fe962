import ShadingGraph.Filter.Vstruct

/-!
# Filter chains

Filters change a network before it is converted. A chain applies its filters in order and collects
the problems they report; a problem never stops the chain.

## Main definitions

- `NetworkFilter` — a change of networks, with its configuration name
- `NetworkFilter.resolveVstructs` — the expansion of vstruct connections as a filter
- `FilterChain` — filters in order, with `FilterChain.ofNames` and `FilterChain.standard`
- `FilterChain.execute` — the filtered network and the problems
-/

namespace ShadingGraph

/-- A change of material networks. -/
structure NetworkFilter where
  /-- The name of the filter in configurations. -/
  name : String
  /-- Changes the network of the material at a path, and says in words what could not be changed. -/
  apply : ShaderCatalog → String → MaterialNetwork → MaterialNetwork × List String

namespace NetworkFilter

/-- Expands vstruct connections into connections of their members. -/
def resolveVstructs : NetworkFilter where
  name := "resolveVstructs"
  apply c materialId net :=
    let r := c.expandVstructs net
    (r.1, r.2.map (VstructProblem.message materialId))

/-- The filter of a configuration name. -/
def ofName? (s : String) : Option NetworkFilter :=
  if s = resolveVstructs.name then some resolveVstructs else none

end NetworkFilter

/-- Filters in the order in which they are applied. -/
abbrev FilterChain := List NetworkFilter

namespace FilterChain

/-- The chain that is used where none is configured. -/
def standard : FilterChain := [.resolveVstructs]

/-- The chain of a list of configuration names; names of no filter are left out. -/
def ofNames (names : List String) : FilterChain := names.filterMap NetworkFilter.ofName?

/-- The configuration names of no filter, in order. -/
def unknownNames (names : List String) : List String :=
  names.filter fun s => (NetworkFilter.ofName? s).isNone

/-- The configuration names of the filters in order. -/
def names (chain : FilterChain) : List String := chain.map NetworkFilter.name

/-- The names as a list for inspection. -/
def inspect (chain : FilterChain) : String :=
  bracketed (chain.names.map fun s => String.ofList (inspectString s))

/-- Applies one filter behind those applied so far. -/
def applyNext (c : ShaderCatalog) (materialId : String) (s : MaterialNetwork × List String)
    (filter : NetworkFilter) : MaterialNetwork × List String :=
  let r := filter.apply c materialId s.1
  (r.1, s.2 ++ r.2)

/-- Applies the filters to the network of a material in order, collecting their problems. -/
def execute (chain : FilterChain) (c : ShaderCatalog) (materialId : String)
    (net : MaterialNetwork) : MaterialNetwork × List String :=
  chain.foldl (applyNext c materialId) (net, [])

end FilterChain

end ShadingGraph
