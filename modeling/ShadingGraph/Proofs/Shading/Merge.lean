import ShadingGraph.Proofs.Registry.Properties
import ShadingGraph.Proofs.Shading.References

/-!
# How the parameters of a shading node are merged

Authored values and connections are written into one map, under the names that the renderer uses;
several inputs may share a name. The last connection that is expressed under a name decides its
value, and the last authored value does where there is none. A name has the place of its first
write.

## Main definitions

- `referenceTypes` — the declared types that have references
- `AuthoredUnder`, `ShaderCatalog.ExpressedUnder` — what an authored value or a connection gives
- `ParameterSource`, `MaterialNode.parameterSources` — both, in the order in which they are written
- `ShaderCatalog.Merged` — the parameters of a shading node as its material node has them

## Main results

- `ShaderCatalog.merged_of_convertNode` — the parameters of a node that has been converted
- `ShaderCatalog.merged_of_convert` — the parameters of every emitted node
-/

namespace ShadingGraph

/-! ## Types of references -/

/-- The declared types that have references, each with the type of these. -/
def referenceTypes : List (PropertyType × ReferenceType) :=
  [(.color, .color), (.vector, .vector), (.point, .point), (.normal, .normal), (.float, .float),
    (.int, .int), (.string, .string), (.struct, .struct)]

theorem PropertyType.reference?_eq_some_iff {declared : PropertyType} {type : ReferenceType} :
    declared.reference? = some type ↔ (declared, type) ∈ referenceTypes := by
  cases declared <;> cases type <;> simp [reference?, referenceTypes]

/-! ## What is written -/

/-- An authored value is written under a name: the first input of its own name is declared with a
type and with the name for the renderer, and the value converts for it. -/
def AuthoredUnder (isImage : String → Bool) (descriptor : ShaderDescriptor) (kind : ShadingKind)
    (name : String) (entry : String × Value) (p : ShadingParameter) : Prop :=
  ∃ input, FirstNamed descriptor.inputs entry.1 input ∧ input.type ≠ .unspecified ∧
    input.implementationName = name ∧
    convertValue isImage entry.1 entry.2 input kind = .ok (some p)

/-- A connection of the node at a path is expressed under a name: what feeds it is in the network
and has not failed in front of the node, both shaders declare their ends, and the type of the input
has references. The reference names the output as the renderer does. -/
def ShaderCatalog.ExpressedUnder (c : ShaderCatalog) (net : MaterialNetwork) (root path : String)
    (descriptor : ShaderDescriptor) (name : String) (entry : String × Connection)
    (p : ShadingParameter) : Prop :=
  ∃ feeding source input output type, net.node? entry.2.node = some feeding ∧
    (c.Converts feeding ∨ ¬ net.Precedes root entry.2.node path) ∧
    c.describe feeding.typeId = some source ∧ FirstNamed descriptor.inputs entry.1 input ∧
    FirstNamed source.outputs entry.2.output output ∧ (input.type, type) ∈ referenceTypes ∧
    input.implementationName = name ∧
    p = .reference type (entry.2.node ++ ":" ++ output.implementationName)

/-- What a parameter of a shading node can come from. -/
inductive ParameterSource where
  | authored (entry : String × Value)
  | connection (entry : String × Connection)

/-- The authored values of a node and then its connections, each in order. -/
def MaterialNode.parameterSources (node : MaterialNode) : List ParameterSource :=
  node.parameters.entries.map .authored ++ node.connections.map .connection

/-- A source is written under a name. -/
def ShaderCatalog.WrittenUnder (c : ShaderCatalog) (net : MaterialNetwork) (root path : String)
    (descriptor : ShaderDescriptor) (kind : ShadingKind) (name : String) :
    ParameterSource → ShadingParameter → Prop
  | .authored entry, p => AuthoredUnder c.isImage descriptor kind name entry p
  | .connection entry, p => c.ExpressedUnder net root path descriptor name entry p

/-- The parameters of a shading node are those of a material node and its shader. -/
structure ShaderCatalog.Merged (c : ShaderCatalog) (net : MaterialNetwork) (root : String)
    (node : MaterialNode) (descriptor : ShaderDescriptor) (n : ShadingNode) : Prop where
  nodup : n.parameters.keys.Nodup
  /-- The last connection decides, and only where there is none the last authored value. -/
  value : ∀ name p, n.parameters.find? name = some p ↔
    LastOf node.connections (c.ExpressedUnder net root n.handle descriptor name) p ∨
      (∀ entry ∈ node.connections, ∀ r,
          ¬ c.ExpressedUnder net root n.handle descriptor name entry r) ∧
        LastOf node.parameters.entries (AuthoredUnder c.isImage descriptor n.kind name) p
  absent : ∀ name, n.parameters.find? name = none ↔
    ∀ source ∈ node.parameterSources, ∀ p,
      ¬ c.WrittenUnder net root n.handle descriptor n.kind name source p
  /-- In front of a name stand the names that are written before its first source. -/
  order : ∀ front name back, n.parameters.keys = front ++ name :: back →
    ∃ before source after, node.parameterSources = before ++ source :: after ∧
      (∃ p, c.WrittenUnder net root n.handle descriptor n.kind name source p) ∧
      ∀ other, other ∈ front ↔
        ∃ earlier ∈ before, ∃ p,
          c.WrittenUnder net root n.handle descriptor n.kind other earlier p
  /-- What is no reference has been authored, for an input that does not route structs. -/
  literal : ∀ name p, n.parameters.find? name = some p → p.target? = none →
    ∃ entry ∈ node.parameters.entries, ∃ input, FirstNamed descriptor.inputs entry.1 input ∧
      input.implementationName = name ∧ input.type ≠ .struct ∧ input.type ≠ .vstruct

variable {isImage : String → Bool}

theorem convertAuthored_eq_some_iff {descriptor : ShaderDescriptor} {kind : ShadingKind}
    {entry : String × Value} {name : String} {p : ShadingParameter} :
    convertAuthored isImage descriptor kind entry = some (name, p) ↔
      AuthoredUnder isImage descriptor kind name entry p := by
  simp only [convertAuthored, AuthoredUnder, ← ShaderDescriptor.input?_eq_some_iff]
  cases descriptor.input? entry.1 with
  | none => simp
  | some input =>
    by_cases htype : input.type = .unspecified
    · simp [htype]
    · cases hvalue : convertValue isImage entry.1 entry.2 input kind with
      | error e => simp [htype, hvalue]
      | ok converted => cases converted <;> simp [htype, hvalue]

/-- Structs are dropped, so what is authored is written for none. -/
theorem AuthoredUnder.exists_input {descriptor : ShaderDescriptor} {kind : ShadingKind}
    {entry : String × Value} {name : String} {p : ShadingParameter}
    (h : AuthoredUnder isImage descriptor kind name entry p) :
    ∃ input, FirstNamed descriptor.inputs entry.1 input ∧ input.implementationName = name ∧
      input.type ≠ .struct ∧ input.type ≠ .vstruct := by
  obtain ⟨input, hinput, -, hname, hvalue⟩ := h
  have hdropped : convertValue isImage entry.1 entry.2 input kind ≠ .ok none := by
    rw [hvalue]
    simp
  refine ⟨input, hinput, hname, fun htype => hdropped ?_, fun htype => hdropped ?_⟩
  · rw [convertValue, htype]
  · rw [convertValue, htype]

namespace ShaderCatalog

variable {c : ShaderCatalog} {net : MaterialNetwork} {root path name : String}
  {node : MaterialNode} {n : ShadingNode} {nodes : List ShadingNode}
  {descriptor : ShaderDescriptor} {kind : ShadingKind} {p : ShadingParameter}
  {front back : List (String × MaterialNode)}

theorem referenceOf_eq_some_iff_expressedUnder {entry : String × Connection}
    (hsplit : net.orderFrom root = front ++ (path, node) :: back) :
    c.referenceOf net (c.convertAll net front).failed descriptor entry = some (name, p) ↔
      c.ExpressedUnder net root path descriptor name entry p := by
  rw [referenceOf_eq_some_iff]
  refine exists_congr fun feeding => ?_
  refine exists₄_congr fun source input output type => and_congr_right fun hfeeding => ?_
  rw [not_mem_failed_iff hsplit hfeeding, ShaderDescriptor.input?_eq_some_iff,
    ShaderDescriptor.output?_eq_some_iff, PropertyType.reference?_eq_some_iff, eq_comm (b := p)]
  rfl

/-! ## The merge of one node -/

/-- The parameter that a source is written as, given the failures so far. -/
def writeOf? (c : ShaderCatalog) (net : MaterialNetwork) (failed : List String)
    (descriptor : ShaderDescriptor) (kind : ShadingKind) :
    ParameterSource → Option (String × ShadingParameter)
  | .authored entry => convertAuthored c.isImage descriptor kind entry
  | .connection entry => c.referenceOf net failed descriptor entry

/-- Authored values and connections are written in one go. -/
theorem parameters_shadingNode (c : ShaderCatalog) (net : MaterialNetwork) (failed : List String)
    (path : String) (node : MaterialNode) (descriptor : ShaderDescriptor) (kind : ShadingKind) :
    (c.shadingNode net failed path node descriptor kind).parameters =
      .ofList (node.parameterSources.filterMap (c.writeOf? net failed descriptor kind)) := by
  rw [MaterialNode.parameterSources, List.filterMap_append, List.filterMap_map, List.filterMap_map,
    OrderedMap.ofList, OrderedMap.insertAll_append]
  rfl

theorem writeOf?_eq_some_iff (hsplit : net.orderFrom root = front ++ (path, node) :: back)
    {source : ParameterSource} :
    c.writeOf? net (c.convertAll net front).failed descriptor kind source = some (name, p) ↔
      c.WrittenUnder net root path descriptor kind name source p := by
  cases source with
  | authored entry => exact convertAuthored_eq_some_iff
  | connection entry => exact referenceOf_eq_some_iff_expressedUnder hsplit

theorem find?_shadingNode_iff (hsplit : net.orderFrom root = front ++ (path, node) :: back) :
    (c.shadingNode net (c.convertAll net front).failed path node descriptor kind).parameters.find?
        name = some p ↔
      LastOf node.connections (c.ExpressedUnder net root path descriptor name) p ∨
        (∀ entry ∈ node.connections, ∀ r,
          ¬ c.ExpressedUnder net root path descriptor name entry r) ∧
          LastOf node.parameters.entries (AuthoredUnder c.isImage descriptor kind name) p := by
  have hempty : (∅ : OrderedMap String ShadingParameter).find? name ≠ some p := nofun
  -- The connections are written behind the authored values, and these into the empty map.
  rw [shadingNode, convertConnections, OrderedMap.find?_insertAll_filterMap, convertParameters,
    OrderedMap.find?_insertAll_filterMap]
  simp only [referenceOf_eq_some_iff_expressedUnder hsplit, convertAuthored_eq_some_iff, hempty,
    and_false, or_false, ne_eq]

theorem find?_shadingNode_eq_none_iff
    (hsplit : net.orderFrom root = front ++ (path, node) :: back) :
    (c.shadingNode net (c.convertAll net front).failed path node descriptor kind).parameters.find?
        name = none ↔
      ∀ source ∈ node.parameterSources, ∀ p,
        ¬ c.WrittenUnder net root path descriptor kind name source p := by
  rw [parameters_shadingNode, OrderedMap.find?_ofList_filterMap_eq_none_iff]
  simp only [ne_eq, writeOf?_eq_some_iff hsplit]

/-- A node that is converted at its place in the order has the merged parameters. -/
theorem merged_of_convertNode (hsplit : net.orderFrom root = front ++ (n.handle, node) :: back)
    (h : c.convertNode net (c.convertAll net front).failed n.handle node = .ok n) :
    ∃ descriptor, c.describe node.typeId = some descriptor ∧
      c.Merged net root node descriptor n := by
  obtain ⟨descriptor, kind, hdescribe, -, -, hn⟩ := convertNode_eq_ok_iff.1 h
  obtain rfl : n.kind = kind := congrArg ShadingNode.kind hn
  have hparameters := congrArg ShadingNode.parameters hn
  refine ⟨descriptor, hdescribe, ?_⟩
  constructor
  · exact n.parameters.nodup
  · intro name p
    rw [hparameters]
    exact find?_shadingNode_iff hsplit
  · intro name
    rw [hparameters]
    exact find?_shadingNode_eq_none_iff hsplit
  · intro before name after hkeys
    rw [hparameters, parameters_shadingNode] at hkeys
    obtain ⟨earlier, source, later, hsources, hfirst, hbefore⟩ :=
      OrderedMap.keys_ofList_filterMap_split hkeys
    simp only [writeOf?_eq_some_iff hsplit] at hfirst hbefore
    exact ⟨earlier, source, later, hsources, hfirst, hbefore⟩
  · intro name p hfind hliteral
    rw [hparameters, find?_shadingNode_iff hsplit] at hfind
    rcases hfind with ⟨_, entry, _, -, hexpressed, -⟩ | ⟨-, _, entry, _, hentries, hauthored, -⟩
    · obtain ⟨_, _, _, _, _, -, -, -, -, -, -, -, rfl⟩ := hexpressed
      cases hliteral
    · exact ⟨entry, by simp [hentries], hauthored.exists_input⟩

/-- Every emitted node has the parameters of its material node: one for each name that is written,
the connections before the authored values in rank and behind them in order. -/
theorem merged_of_convert (h : c.convert net root = .ok nodes) (hn : n ∈ nodes) :
    ∃ node descriptor, net.node? n.handle = some node ∧ c.describe node.typeId = some descriptor ∧
      c.Merged net root node descriptor n := by
  obtain ⟨-, -, -, rfl⟩ := exists_root_of_convert h
  obtain ⟨before, after, hsplit⟩ := List.append_of_mem hn
  obtain ⟨front, node, back, horder, -, hconvert⟩ := emitted_split hsplit
  obtain ⟨descriptor, hdescribe, hmerged⟩ := merged_of_convertNode horder hconvert
  exact ⟨node, descriptor, (MaterialNetwork.reaches_of_split horder).2, hdescribe, hmerged⟩

end ShaderCatalog

/-- A surface with two inputs that share a name for the renderer, and one with its own. -/
def sampleLayer : ShaderDescriptor :=
  ((ShaderDescriptor.ofIdentifier "Layer" oslSource "bxdf").withProperties
    [.named "x" .int, (ShaderProperty.named "alias" .int).withImplementationName "x",
      .named "y" .int]
    [.named "out" .int]).withImplementation "Layer.oso"

def sampleLayerCatalog : ShaderCatalog := ⟨.ofList [sampleLayer], [], fun _ => false⟩

/-- Authored values under both names, and for the shared one also a connection of each input; what
is to feed the last one is missing. -/
def sampleMerge : MaterialNetwork :=
  let authored :=
    ((MaterialNode.ofType "Layer").setParameter "y" (.int 1)).setParameter "x" (.int 2)
  ⟨.ofList [("R", (authored.connect "alias" ⟨"A", "out"⟩).connect "x" ⟨"B", "out"⟩),
    ("A", .ofType "Layer")], ∅⟩

theorem convert_sampleMerge :
    sampleLayerCatalog.convert sampleMerge "R" =
      .ok [⟨.bxdf, "A", "Layer.oso", ∅⟩,
        ⟨.bxdf, "R", "Layer.oso", .ofList [("y", .int 1), ("x", .reference .int "A:out")]⟩] := by
  cbv

theorem merged_sampleMerge :
    (∃ nodes, sampleLayerCatalog.convert sampleMerge "R" = .ok nodes) ∧
      ∃ node descriptor, sampleMerge.node? "R" = some node ∧
        sampleLayerCatalog.describe node.typeId = some descriptor ∧
        sampleLayerCatalog.Merged sampleMerge "R" node descriptor
          ⟨.bxdf, "R", "Layer.oso", .ofList [("y", .int 1), ("x", .reference .int "A:out")]⟩ :=
  ⟨⟨_, convert_sampleMerge⟩,
    ShaderCatalog.merged_of_convert convert_sampleMerge (List.mem_cons_of_mem _ List.mem_cons_self)⟩

end ShadingGraph
