import ShadingGraph.Proofs.OrderedMap
import ShadingGraph.Proofs.Shading.Outcome

/-!
# Where references come from

A parameter of a shading node that refers to another node was made from a connection of the material
node: the last of those that are expressed under its name. Authored values never become references.

## Main definitions

- `ShaderCatalog.RefersBy` — the connection behind a reference that a node is converted with
- `ShaderCatalog.MadeFrom` — the connection behind a reference of an emitted node

## Main results

- `ShaderCatalog.find?_reference_iff` — the references of a node that has been converted
- `ShaderCatalog.exists_madeFrom` — every reference of a result has a connection behind it
-/

namespace ShadingGraph

/-! ## Authored values -/

private theorem eq_some_of_expected {o : Option ShadingParameter} {e : ParameterError}
    {p : ShadingParameter}
    (h : (match o with | some p => Except.ok p | none => .error e) = .ok p) : o = some p := by
  cases o with
  | none => cases h
  | some p =>
    cases h
    rfl

theorem target?_of_convertTriple {type : PropertyType} {v : Triple Single} {p : ShadingParameter}
    (h : convertTriple type v = some p) : p.target? = none := by
  cases type <;> cases h <;> rfl

theorem target?_of_convertTriples {type : PropertyType} {vs : List (Triple Single)}
    {p : ShadingParameter} (h : convertTriples type vs = some p) : p.target? = none := by
  cases type <;> cases h <;> rfl

theorem target?_of_convertText {property : ShaderProperty} {s : String} {p : ShadingParameter}
    (h : convertText property s = .ok p) : p.target? = none := by
  unfold convertText at h
  split at h
  · cases hcode : resolveOption s property.options with
    | error e =>
      rw [hcode] at h
      cases h
    | ok code =>
      rw [hcode] at h
      cases h
      rfl
  · cases h
    rfl

variable {isImage : String → Bool}

theorem target?_of_convertTyped {parameter : String} {value : Value} {property : ShaderProperty}
    {kind : ShadingKind} {p : ShadingParameter}
    (h : convertTyped isImage parameter value property kind = .ok p) : p.target? = none := by
  unfold convertTyped at h
  -- The cases are grouped by what makes the parameter.
  cases value
  case vec3 | vec3d => exact target?_of_convertTriple (eq_some_of_expected h)
  case vec3Array | vec3dArray => exact target?_of_convertTriples (eq_some_of_expected h)
  case string | token => exact target?_of_convertText h
  case asset | bool =>
    cases h
    rfl
  case vec2 | vec4 | stringArray =>
    obtain ⟨-, hp⟩ := Option.ite_none_right_eq_some.1 (eq_some_of_expected h)
    cases hp
    rfl
  case float | floatArray | int | intArray =>
    have h := eq_some_of_expected h
    split at h <;> cases h <;> rfl

theorem target?_of_convertValue {parameter : String} {value : Value} {property : ShaderProperty}
    {kind : ShadingKind} {p : ShadingParameter}
    (h : convertValue isImage parameter value property kind = .ok (some p)) : p.target? = none := by
  unfold convertValue at h
  split at h
  · cases h
  · cases h
  · cases htyped : convertTyped isImage parameter value property kind with
    | error e =>
      rw [htyped] at h
      cases h
    | ok p =>
      rw [htyped] at h
      cases h
      exact target?_of_convertTyped htyped

theorem target?_of_convertAuthored {descriptor : ShaderDescriptor} {kind : ShadingKind}
    {entry : String × Value} {name : String} {p : ShadingParameter}
    (h : convertAuthored isImage descriptor kind entry = some (name, p)) : p.target? = none := by
  unfold convertAuthored at h
  split at h
  · cases h
  · split at h
    · cases h
    · split at h
      · rename_i hvalue
        cases h
        exact target?_of_convertValue hvalue
      · cases h

theorem find?_convertParameters_ne_reference {node : MaterialNode} {descriptor : ShaderDescriptor}
    {kind : ShadingKind} {name target : String} {type : ReferenceType} :
    (convertParameters isImage node descriptor kind ∅).find? name ≠
      some (.reference type target) := by
  intro h
  rcases OrderedMap.find?_insertAll_filterMap.1 h with ⟨-, entry, -, -, hentry, -⟩ | ⟨-, hempty⟩
  · cases target?_of_convertAuthored hentry
  · cases hempty

namespace ShaderCatalog

variable {c : ShaderCatalog} {net : MaterialNetwork} {failed : List String}
  {root path name : String} {node : MaterialNode} {n : ShadingNode} {nodes : List ShadingNode}
  {entry : String × Connection} {descriptor : ShaderDescriptor} {reference : ShadingParameter}

/-! ## The reference for a connection -/

theorem referenceOf_eq_some_iff :
    c.referenceOf net failed descriptor entry = some (name, reference) ↔
      ∃ feeding source input output type, net.node? entry.2.node = some feeding ∧
        entry.2.node ∉ failed ∧ c.describe feeding.typeId = some source ∧
        descriptor.input? entry.1 = some input ∧ source.output? entry.2.output = some output ∧
        input.type.reference? = some type ∧ input.implementationName = name ∧
        .reference type (referenceTarget entry.2.node output.implementationName) = reference := by
  by_cases hfailed : entry.2.node ∈ failed
  · simp [referenceOf, hfailed]
  · simp [referenceOf, hfailed, Option.bind_eq_some_iff]

/-- A connection has a reference if it could have one and the node that feeds it has not failed. -/
theorem referenceOf_iff_not_mem_failed {r : String × ShadingParameter} :
    c.referenceOf net failed descriptor entry = some r ↔
      entry.2.node ∉ failed ∧ c.referenceOf net [] descriptor entry = some r := by
  by_cases hfailed : entry.2.node ∈ failed
  · simp [referenceOf, hfailed]
  · simp [referenceOf, hfailed]

/-! ## The references of a node -/

/-- The connection behind a reference that a node has under a name, given the failures: the last one
of the node that is expressed under the name. -/
def RefersBy (c : ShaderCatalog) (net : MaterialNetwork) (failed : List String)
    (node : MaterialNode) (name : String) (entry : String × Connection)
    (reference : ShadingParameter) : Prop :=
  ∃ descriptor front back, c.describe node.typeId = some descriptor ∧
    node.connections = front ++ entry :: back ∧
    c.referenceOf net failed descriptor entry = some (name, reference) ∧
    ∀ later ∈ back, ∀ r, c.referenceOf net failed descriptor later ≠ some (name, r)

/-- The references of a node that has been converted are those of its connections. -/
theorem find?_reference_iff (h : c.convertNode net failed path node = .ok n) {type : ReferenceType}
    {target : String} :
    n.parameters.find? name = some (.reference type target) ↔
      ∃ entry, c.RefersBy net failed node name entry (.reference type target) := by
  obtain ⟨descriptor, kind, hdescribe, -, -, rfl⟩ := convertNode_eq_ok_iff.1 h
  -- No authored value is a reference, so the last connection decides.
  rw [shadingNode, convertConnections, OrderedMap.find?_insertAll_filterMap,
    or_iff_left fun hauthored => find?_convertParameters_ne_reference hauthored.2]
  constructor
  · rintro ⟨front, entry, back, hconnections, hentry, hlast⟩
    exact ⟨entry, descriptor, front, back, hdescribe, hconnections, hentry, hlast⟩
  · rintro ⟨entry, descriptor', front, back, hdescribe', hconnections, hentry, hlast⟩
    rw [hdescribe, Option.some.injEq] at hdescribe'
    subst hdescribe'
    exact ⟨front, entry, back, hconnections, hentry, hlast⟩

/-- What feeds a connection behind a reference is a node of the network that has not failed. -/
theorem RefersBy.feeding (h : c.RefersBy net failed node name entry reference) :
    entry ∈ node.connections ∧ entry.2.node ∉ failed ∧
      (∃ feeding, net.node? entry.2.node = some feeding) ∧
      ∃ type output, reference = .reference type (referenceTarget entry.2.node output) := by
  obtain ⟨descriptor, front, back, -, hconnections, hentry, -⟩ := h
  obtain ⟨feeding, source, input, output, type, hfeeding, hfailed, -, -, -, -, -, hreference⟩ :=
    referenceOf_eq_some_iff.1 hentry
  exact ⟨by simp [hconnections], hfailed, ⟨feeding, hfeeding⟩, type, output.implementationName,
    hreference.symm⟩

/-! ## The references of a result -/

/-- A reference that an emitted node has under a name was made from a connection, when the node was
the next to be converted on the walk. -/
def MadeFrom (c : ShaderCatalog) (net : MaterialNetwork) (root : String) (n : ShadingNode)
    (name : String) (entry : String × Connection) : Prop :=
  ∃ w node rest reference, Walk.Reached c net root w ∧
    w.pending = .emit n.handle node :: rest ∧
    c.convertNode net w.failed n.handle node = .ok n ∧
    c.RefersBy net w.failed node name entry reference

/-- The reference is there, and names the node that feeds the connection. -/
theorem MadeFrom.find? (h : c.MadeFrom net root n name entry) :
    ∃ type output, n.parameters.find? name =
      some (.reference type (referenceTarget entry.2.node output)) := by
  obtain ⟨w, node, rest, reference, -, -, hconvert, hrefers⟩ := h
  obtain ⟨-, -, -, type, output, rfl⟩ := hrefers.feeding
  exact ⟨type, output, (find?_reference_iff hconvert).2 ⟨entry, hrefers⟩⟩

theorem exists_walk_of_convert (h : c.convert net root = .ok nodes) :
    ∃ w, Walk.Reached c net root w ∧ w.pending = [] ∧ w.emitted = nodes := by
  rcases Walk.Reached.start.exists_end with ⟨w, hw, hpending, hrun⟩ |
    ⟨w, task, rest, e, -, -, -, hrun⟩
  · exact ⟨w, hw, hpending, Except.ok.inj (hrun.symm.trans h)⟩
  · cases hrun.symm.trans h

/-- Every reference of a result was made from a connection. -/
theorem exists_madeFrom (h : c.convert net root = .ok nodes) (hn : n ∈ nodes)
    {type : ReferenceType} {target : String}
    (hreference : n.parameters.find? name = some (.reference type target)) :
    ∃ entry output, c.MadeFrom net root n name entry ∧
      target = referenceTarget entry.2.node output := by
  obtain ⟨w, hw, -, rfl⟩ := exists_walk_of_convert h
  obtain ⟨w', node, rest, hw', hpending, hconvert⟩ := hw.exists_emit hn
  obtain ⟨entry, hrefers⟩ := (find?_reference_iff hconvert).1 hreference
  obtain ⟨-, -, -, type', output, heq⟩ := hrefers.feeding
  cases heq
  exact ⟨entry, output, ⟨w', node, rest, _, hw', hpending, hconvert, hrefers⟩, rfl⟩

/-- A node is converted against the failures among the nodes in front of it. -/
theorem madeFrom_iff (h : c.convert net root = .ok nodes) (hn : n ∈ nodes)
    {front back : List (String × MaterialNode)}
    (hsplit : net.orderFrom root = front ++ (n.handle, node) :: back) :
    c.MadeFrom net root n name entry ↔
      ∃ reference, c.RefersBy net (c.convertAll net front).failed node name entry reference := by
  have hfailed : ∀ {w node' rest}, Walk.Reached c net root w →
      w.pending = .emit n.handle node' :: rest →
      node = node' ∧ w.failed = (c.convertAll net front).failed := by
    intro w node' rest hw hpending
    obtain ⟨front', back', hsplit', hconversions⟩ := hw.follows_emit hpending
    obtain ⟨rfl, rfl, -⟩ := MaterialNetwork.orderFrom_split_unique hsplit hsplit'
    exact ⟨rfl, congrArg Conversions.failed hconversions⟩
  constructor
  · rintro ⟨w, node', rest, reference, hw, hpending, -, hrefers⟩
    obtain ⟨rfl, heq⟩ := hfailed hw hpending
    exact ⟨reference, heq ▸ hrefers⟩
  · rintro ⟨reference, hrefers⟩
    obtain ⟨w, hw, -, rfl⟩ := exists_walk_of_convert h
    obtain ⟨w', node', rest, hw', hpending, hconvert⟩ := hw.exists_emit hn
    obtain ⟨rfl, heq⟩ := hfailed hw' hpending
    exact ⟨w', node, rest, reference, hw', hpending, hconvert, heq ▸ hrefers⟩

end ShaderCatalog

end ShadingGraph
