import ShadingGraph.Proofs.Network.Equality
import ShadingGraph.Proofs.Ron.Construct
import ShadingGraph.Ron.Network

/-!
# Documents of networks read back

A network without a NaN is read from its own document as it was, in every order that shows: that of
nodes, parameters, inputs, connections and terminals. Texts may hold any characters, lists may be
empty, and infinities and negative zeros are kept.

## Main results

- `Ron.reads_value`, `Ron.reads_node`, `Ron.reads_network` — the parts of a document
- `MaterialNetwork.ofRon?_toRon` — reading inverts writing
-/

namespace ShadingGraph

namespace Ron

/-- What is made of a value that was read. -/
theorem Reads.refine {α β : Type} {need : Nat} {read : Reader α} {text : List Char} {a : α} {b : β}
    {f : α → Option β} (h : Reads need read text a) (hf : f a = some b) :
    Reads need (Ron.refine f read) text b where
  opens := h.opens
  reads := by
    intro x hx hlevels rest hrest
    simp [Ron.refine, h.reads x hx hlevels rest hrest, hf]

/-! ## Values -/

theorem reads_single {x : Single} (hx : x.isNaN = false) (depth : Nat) :
    Reads 0 readSingle (writeFloat depth x) x :=
  reads_float .single hx depth

theorem reads_int32 (n : Int32) (depth : Nat) : Reads 0 readInt32 (writeInt32 depth n) n := by
  have hrange : (IntegerType.signed 32).least ≤ n.toInt ∧
      n.toInt ≤ (IntegerType.signed 32).greatest := by
    have hlow := n.le_toInt
    have hhigh := n.toInt_lt
    have hleast : (IntegerType.signed 32).least = -2 ^ 31 := by decide
    have hgreatest : (IntegerType.signed 32).greatest = 2 ^ 31 - 1 := by decide
    omega
  have hread := (reads_integer (.signed 32) hrange depth).map Int32.ofInt
  rwa [Int32.ofInt_toInt] at hread

/-- Numbers without a NaN on one line. -/
theorem reads_numbers (type : FloatType) {xs : List (Binary type.format)}
    (hxs : xs.any Binary.isNaN = false) (depth : Nat) :
    Reads 2 (readTuple xs.length false (anywhere (readFloat type))) (writeTuple writeFloat depth xs)
      xs := by
  apply Reads.tuple
  rw [List.forall₂_same]
  intro x hx
  exact reads_float type (by simpa using List.any_eq_false.1 hxs x hx) depth

theorem reads_triple {v : Triple Single} (hv : v.toList.any Binary.isNaN = false) (depth : Nat) :
    Reads 2 (readTriple false) (writeTriple depth v) v := by
  have hnumbers : Reads 2 (readTuple 3 false readSingle) (writeTriple depth v) v.toList :=
    reads_numbers .single hv depth
  exact hnumbers.refine rfl

theorem reads_tripleDouble {v : Triple Double} (hv : v.toList.any Binary.isNaN = false)
    (depth : Nat) : Reads 2 (readTripleDouble false) (writeTriple depth v) v := by
  have hnumbers : Reads 2 (readTuple 3 false readDouble) (writeTriple depth v) v.toList :=
    reads_numbers .double hv depth
  exact hnumbers.refine rfl

theorem reads_asset (a : AssetPath) (depth : Nat) :
    Reads 3 (readAsset false) (writeAsset depth a) a := by
  have hauthored := (reads_string a.authored (depth + 1)).mono (Nat.zero_le 1)
  have hresolved : Reads 1 (readOption fun _ => anywhere readString)
      (writeOption writeString (depth + 1) a.resolved) a.resolved :=
    Reads.option fun s _ => reads_string s (depth + 1)
  exact Reads.struct (by decide) (.cons (Reads.field (by decide) rfl (hauthored.map _))
    (.cons (Reads.field (by decide) rfl (hresolved.map _)) .nil)) rfl rfl

/-- A value without a NaN, whatever its type. -/
theorem reads_value {v : Value} (hv : v.hasNaN = false) (depth : Nat) :
    Reads 6 readValue (writeValue depth v) v := by
  cases v with
  | float x =>
    exact (Reads.variant (by decide) rfl ((reads_single hv depth).map _)).mono (by decide)
  | int n => exact (Reads.variant (by decide) rfl ((reads_int32 n depth).map _)).mono (by decide)
  | bool b => exact (Reads.variant (by decide) rfl ((reads_bool b depth).map _)).mono (by decide)
  | string s =>
    exact (Reads.variant (by decide) rfl ((reads_string s depth).map _)).mono (by decide)
  | token s => exact (Reads.variant (by decide) rfl ((reads_string s depth).map _)).mono (by decide)
  | vec2 x y =>
    have hnumbers : Reads 2 (readTuple 2 false readSingle) (writeTuple writeFloat depth [x, y])
        [x, y] := reads_numbers .single hv depth
    exact (Reads.variant (by decide) rfl (hnumbers.refine (by rfl))).mono (by decide)
  | vec3 v => exact (Reads.variant (by decide) rfl ((reads_triple hv depth).map _)).mono (by decide)
  | vec3d v =>
    exact (Reads.variant (by decide) rfl ((reads_tripleDouble hv depth).map _)).mono (by decide)
  | vec4 x y z w =>
    have hnumbers : Reads 2 (readTuple 4 false readSingle)
        (writeTuple writeFloat depth [x, y, z, w]) [x, y, z, w] :=
      reads_numbers .single hv depth
    exact (Reads.variant (by decide) rfl (hnumbers.refine (by rfl))).mono (by decide)
  | floatArray xs =>
    have hlist : Reads 2 (readList readSingle) (writeList writeFloat depth xs) xs :=
      Reads.list fun x hx => reads_single (by simpa using List.any_eq_false.1 hv x hx) _
    exact (Reads.variant (by decide) rfl (hlist.map _)).mono (by decide)
  | intArray ns =>
    have hlist : Reads 2 (readList readInt32) (writeList writeInt32 depth ns) ns :=
      Reads.list fun n _ => reads_int32 n _
    exact (Reads.variant (by decide) rfl (hlist.map _)).mono (by decide)
  | stringArray ss =>
    have hlist : Reads 2 (readList (anywhere readString)) (writeList writeString depth ss) ss :=
      Reads.list fun s _ => reads_string s _
    exact (Reads.variant (by decide) rfl (hlist.map _)).mono (by decide)
  | vec3Array vs =>
    have hlist : Reads 4 (readList (readTriple false)) (writeList writeTriple depth vs) vs :=
      Reads.list fun v hmem => reads_triple (by simpa using List.any_eq_false.1 hv v hmem) _
    exact (Reads.variant (by decide) rfl (hlist.map _)).mono (by decide)
  | vec3dArray vs =>
    have hlist : Reads 4 (readList (readTripleDouble false)) (writeList writeTriple depth vs) vs :=
      Reads.list fun v hmem => reads_tripleDouble (by simpa using List.any_eq_false.1 hv v hmem) _
    exact (Reads.variant (by decide) rfl (hlist.map _)).mono (by decide)
  | asset a => exact (Reads.variant (by decide) rfl ((reads_asset a depth).map _)).mono (by decide)

/-! ## Nodes and networks -/

theorem reads_connection (c : Connection) (depth : Nat) :
    Reads 2 readConnection (writeConnection depth c) c :=
  Reads.struct (by decide) (.cons (Reads.field (by decide) rfl ((reads_string c.node _).map _))
    (.cons (Reads.field (by decide) rfl ((reads_string c.output _).map _)) .nil)) rfl rfl

theorem reads_node {n : MaterialNode} (hn : n.hasNaN = false) (depth : Nat) :
    Reads 10 readNode (writeNode depth n) n := by
  have htype := (reads_string n.typeId (depth + 1)).mono (Nat.zero_le 8)
  have hparameters : Reads 8 (readMap (anywhere readString) readValue)
      (writeMap writeString writeValue (depth + 1) n.parameters) n.parameters := by
    refine Reads.orderedMap (fun e _ => (reads_string e.1 _).mono (Nat.zero_le 6)) fun e he => ?_
    exact reads_value (by simpa using List.any_eq_false.1 hn e.2 (List.mem_map_of_mem he)) _
  have hinputs : Reads 6 (readMap (anywhere readString) (readList readConnection))
      (writeMap writeString (writeList writeConnection) (depth + 1) n.inputs) n.inputs :=
    Reads.orderedMap (fun e _ => (reads_string e.1 _).mono (Nat.zero_le 4)) fun e _ =>
      Reads.list fun c _ => reads_connection c _
  exact Reads.struct (by decide) (.cons (Reads.field (by decide) rfl (htype.map _))
    (.cons (Reads.field (by decide) rfl (hparameters.map _))
      (.cons (Reads.field (by decide) rfl ((hinputs.mono (by decide)).map _)) .nil))) rfl rfl

theorem reads_network {net : MaterialNetwork} (hnet : net.hasNaN = false) (depth : Nat) :
    Reads 14 readNetwork (writeNetwork depth net) net := by
  have hnodes : Reads 12 (readMap (anywhere readString) readNode)
      (writeMap writeString writeNode (depth + 1) net.nodes) net.nodes := by
    refine Reads.orderedMap (fun e _ => (reads_string e.1 _).mono (Nat.zero_le 10)) fun e he => ?_
    exact reads_node (by simpa using List.any_eq_false.1 hnet e.2 (List.mem_map_of_mem he)) _
  have hterminals : Reads 4 (readMap (anywhere readString) readConnection)
      (writeMap writeString writeConnection (depth + 1) net.terminals) net.terminals :=
    Reads.orderedMap (fun e _ => (reads_string e.1 _).mono (Nat.zero_le 2)) fun e _ =>
      reads_connection e.2 _
  exact Reads.struct (by decide) (.cons (Reads.field (by decide) rfl (hnodes.map _))
    (.cons (Reads.field (by decide) rfl ((hterminals.mono (by decide)).map _)) .nil)) rfl rfl

end Ron

namespace MaterialNetwork

/-- A network without a NaN is read back from its document: everything is the same and stands in the
same order, and the network that is read equals the one that was written. -/
theorem ofRon?_toRon {net : MaterialNetwork} (hnet : net.hasNaN = false) :
    ofRon? net.toRon = some net ∧ net.agrees net = true := by
  have hreads := (Ron.reads_network hnet 0).mono (show 14 ≤ Ron.levelLimit by decide)
  have hname : (Ron.writeNetwork 0 net).head? ≠ some '#' := by
    intro h
    cases h
  constructor
  · exact hreads.parse hname
  · rw [agrees_self, hnet, Bool.not_false]

end MaterialNetwork

/-- A network with values of many kinds: infinities, a negative zero, texts with quotes,
backslashes, line breaks and invisible characters, empty lists, and an input without
connections. -/
def sampleValues : MaterialNetwork :=
  let swatch := MaterialNode.ofType "swatch"
    |>.setParameter "gain" (.float (Binary.infinite true))
    |>.setParameter "bias" (.vec2 (Binary.zero.withSign true) ⟨false, 0x3dcccccd, by decide⟩)
    |>.setParameter "offset" (.vec3d ⟨Binary.zero, ⟨true, 1, by decide⟩, Binary.infinite false⟩)
    |>.setParameter "count" (.int Int32.minValue)
    |>.setParameter "label" (.string "a \"quoted\" \\ line\n\t'\u200b\u0301")
    |>.setParameter "modes" (.stringArray ["", "None", "Some(1)"])
    |>.setParameter "points" (.vec3Array [])
    |>.setParameter "image" (.asset ⟨"tex/#(1).png", some ""⟩)
  MaterialNetwork.empty
    |>.addNode "/out" ((swatch.declareInput "unused").connect "color" ⟨"/in, [1]", "rgb"⟩)
    |>.addNode "/in, [1]" (.ofType "")
    |>.setTerminal "surface" ⟨"/out", "out"⟩

theorem ofRon?_sampleValues :
    sampleValues.hasNaN = false ∧
      (MaterialNetwork.ofRon? sampleValues.toRon = some sampleValues ∧
        sampleValues.agrees sampleValues = true) := by
  have hnet : sampleValues.hasNaN = false := by decide
  exact ⟨hnet, MaterialNetwork.ofRon?_toRon hnet⟩

end ShadingGraph
